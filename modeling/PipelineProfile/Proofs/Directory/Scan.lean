import Mathlib.Data.List.Nodup
import PipelineProfile.Directory
import PipelineProfile.Proofs.Directory.Paths

/-!
# Scanning a directory

A directory is scanned benchmark by benchmark.  The log of a benchmark is the first of its
candidates that is a file, so the candidates up to that one decide (`Decides`), and the others are
not looked at.  On a file tree the scan succeeds and changes nothing, and its result is the summary
of each log on its own (`run_summaries`).

The main result, `summaries_scan`, says what the scan finds, and that the summary of a benchmark is
the same in every tree that differs elsewhere (`ChangedElsewhere`).  Changing, adding or removing a
file under a name that does not decide is such a difference, be it a candidate behind the log, the
log of another benchmark, or any other file.
-/

namespace PipelineProfile.Directory

open FileTree PipelineProfile.Path

/-! ## What is found -/

/-- No candidate before this one is a file. -/
def Decides (dir : String) (t : FileTree) (b : Benchmark) (name : String) : Prop :=
  ∃ before after, b.candidates = before ++ name :: after ∧
    ∀ n ∈ before, t.isFile (join dir n) = false

/-- The summaries are those of the logs in the directory. -/
structure IsScan (config : Config) (dir : String) (t : FileTree)
    (found : List (Benchmark × RunSummary)) : Prop where
  /-- A benchmark has a summary if one of its candidates is a file. -/
  mem_keys : ∀ b, b ∈ found.map Prod.fst ↔ ∃ name ∈ b.candidates, t.isFile (join dir name) = true
  nodup_keys : (found.map Prod.fst).Nodup
  /-- The summary is that of the first candidate that is a file. -/
  summary : ∀ e ∈ found, ∃ name, Decides dir t e.1 name ∧ t.isFile (join dir name) = true ∧
    (RunSummary.ofFile config (join dir name) : StateM FileTree _).run t = (.ok e.2, t)

/-- The trees differ neither in directories, the working directory included, nor in what decides
about the benchmark. -/
structure ChangedElsewhere (dir : String) (b : Benchmark) (t u : FileTree) : Prop where
  workDir : u.workDir = t.workDir
  directories : ∀ a, u.node? a = some .directory ↔ t.node? a = some .directory
  decisive : ∀ name a, Decides dir t b name → t.locate? (join dir name) = some a →
    u.node? a = t.node? a

/-- The path of the log of a benchmark. -/
def chosen? (dir : String) (t : FileTree) (b : Benchmark) : Option String :=
  (b.candidates.map (join dir)).find? t.isFile

/-- The summary of the file at a path. -/
def summaryAt (config : Config) (t : FileTree) (path : String) : RunSummary :=
  .ofBytes config path ((t.read? path).getD [])

/-- The summaries of the logs that are chosen. -/
def scan (config : Config) (dir : String) (t : FileTree) : List (Benchmark × RunSummary) :=
  Benchmark.all.filterMap fun b => (chosen? dir t b).map fun path => (b, summaryAt config t path)

/-! ## Running the scan

Every part of the scan leaves the tree as it is, so what runs behind it runs on the same tree. -/

lemma run_bind_of_run {σ α β : Type} {x : StateM σ α} {t : σ} {a : α} (h : x.run t = (a, t))
    (f : α → StateM σ β) : (x >>= f).run t = (f a).run t := by
  rw [StateT.run_bind, h]
  rfl

section Run

variable (config : Config) (dir : String) {t : FileTree}

lemma run_isFile (path : String) (t : FileTree) :
    (MonadFiles.isFile path : StateM FileTree Bool).run t = (t.isFile path, t) := rfl

lemma run_read? (path : String) (t : FileTree) :
    (MonadFiles.read? path : StateM FileTree _).run t = (t.read? path, t) := rfl

lemma run_firstFile? (paths : List String) (t : FileTree) :
    (firstFile? paths : StateM FileTree _).run t = (paths.find? t.isFile, t) := by
  induction paths with
  | nil => rfl
  | cons path paths ih =>
    rw [firstFile?, run_bind_of_run (run_isFile path t)]
    cases hpath : t.isFile path with
    | true =>
      rw [List.find?_cons_of_pos hpath]
      rfl
    | false =>
      rw [List.find?_cons_of_neg (by simp [hpath])]
      exact ih

lemma run_tracesOf (t : FileTree) (bs : List Benchmark) :
    (tracesOf dir bs : StateM FileTree _).run t =
      (bs.filterMap fun b => (chosen? dir t b).map fun path => (b, path), t) := by
  induction bs with
  | nil => rfl
  | cons b bs ih =>
    rw [tracesOf, run_bind_of_run (run_firstFile? _ t), run_bind_of_run ih, List.filterMap_cons,
      chosen?]
    cases (b.candidates.map (join dir)).find? t.isFile with
    | none => rfl
    | some path => rfl

lemma run_ofFile {path : String} (h : t.isFile path = true) :
    (RunSummary.ofFile config path : StateM FileTree _).run t =
      (.ok (summaryAt config t path), t) := by
  obtain ⟨bytes, hbytes⟩ := Option.isSome_iff_exists.mp h
  rw [RunSummary.ofFile, run_bind_of_run (run_isFile path t), if_pos h,
    run_bind_of_run (run_read? path t), summaryAt, hbytes]
  rfl

lemma run_summariesOf {found : List (Benchmark × String)}
    (h : ∀ e ∈ found, t.isFile e.2 = true) :
    (summariesOf config found : StateM FileTree _).run t =
      (.ok (found.map fun e => (e.1, summaryAt config t e.2)), t) := by
  induction found with
  | nil => rfl
  | cons e found ih =>
    obtain ⟨he, hfound⟩ := List.forall_mem_cons.mp h
    rw [summariesOf, run_bind_of_run (run_ofFile config he), run_bind_of_run (ih hfound)]
    rfl

lemma isFile_of_chosen? {b : Benchmark} {path : String} (h : chosen? dir t b = some path) :
    t.isFile path = true := List.find?_some h

/-- The scan succeeds, changes nothing, and gives the summaries of the logs that are chosen. -/
theorem run_summaries (t : FileTree) :
    (summaries config dir : StateM FileTree _).run t = (.ok (scan config dir t), t) := by
  have hfiles : ∀ e ∈ Benchmark.all.filterMap fun b => (chosen? dir t b).map fun path => (b, path),
      t.isFile e.2 = true := by
    intro e he
    obtain ⟨b, -, hb⟩ := List.mem_filterMap.mp he
    obtain ⟨path, hpath, rfl⟩ := Option.map_eq_some_iff.mp hb
    exact isFile_of_chosen? dir hpath
  have hscan : (Benchmark.all.filterMap fun b => (chosen? dir t b).map fun path => (b, path)).map
      (fun e => (e.1, summaryAt config t e.2)) = scan config dir t := by
    rw [List.map_filterMap, scan]
    simp only [Option.map_map, Function.comp_def]
  rw [summaries, traces, run_bind_of_run (run_tracesOf dir t _), run_summariesOf config hfiles,
    hscan]

end Run

/-! ## What decides -/

section Decides

variable {config : Config} {dir : String} {t u : FileTree} {b : Benchmark}

/-- Two searches agree if they agree as far as the first one goes. -/
lemma find?_congr_of_decisive {α : Type} {p q : α → Bool} {l : List α}
    (h : ∀ before a after, l = before ++ a :: after → (∀ x ∈ before, p x = false) → q a = p a) :
    l.find? q = l.find? p := by
  induction l with
  | nil => rfl
  | cons a l ih =>
    have ha : q a = p a := h [] a l rfl (by simp)
    rw [List.find?_cons, List.find?_cons, ha]
    cases hp : p a with
    | true => rfl
    | false =>
      refine ih fun before x after hl hbefore => ?_
      refine h (a :: before) x after (by rw [hl, List.cons_append]) ?_
      exact List.forall_mem_cons.mpr ⟨hp, hbefore⟩

lemma chosen?_eq_map (dir : String) (t : FileTree) (b : Benchmark) : chosen? dir t b =
    (b.candidates.find? fun name => t.isFile (join dir name)).map (join dir) := by
  rw [chosen?, List.find?_map]
  rfl

/-- The log is a candidate that decides. -/
lemma exists_of_chosen? {path : String} (h : chosen? dir t b = some path) :
    ∃ name, Decides dir t b name ∧ t.isFile (join dir name) = true ∧ join dir name = path := by
  rw [chosen?_eq_map, Option.map_eq_some_iff] at h
  obtain ⟨name, hname, hpath⟩ := h
  obtain ⟨hfile, before, after, hsplit, hbefore⟩ := List.find?_eq_some_iff_append.mp hname
  refine ⟨name, ⟨before, after, hsplit, fun n hn => ?_⟩, hfile, hpath⟩
  simpa using hbefore n hn

/-- Trees that do not differ in what decides give the same log with the same bytes. -/
lemma summary_congr (h : ChangedElsewhere dir b t u) :
    (chosen? dir u b).map (summaryAt config u) = (chosen? dir t b).map (summaryAt config t) := by
  have hread : ∀ name, Decides dir t b name → u.read? (join dir name) = t.read? (join dir name) :=
    fun name hname =>
      read?_congr h.workDir h.directories fun a ha => h.decisive name a hname ha
  have hchosen : chosen? dir u b = chosen? dir t b := by
    rw [chosen?_eq_map, chosen?_eq_map]
    congr 1
    refine find?_congr_of_decisive fun before name after hsplit hbefore => ?_
    rw [isFile, isFile, hread name ⟨before, after, hsplit, hbefore⟩]
  rw [hchosen]
  cases hpath : chosen? dir t b with
  | none => rfl
  | some path =>
    obtain ⟨name, hname, -, rfl⟩ := exists_of_chosen? hpath
    rw [Option.map_some, Option.map_some, summaryAt, summaryAt, hread name hname]

lemma Decides.mem_candidates {name : String} (h : Decides dir t b name) : name ∈ b.candidates := by
  obtain ⟨before, after, hsplit, -⟩ := h
  rw [hsplit]
  exact List.mem_append_right _ (List.mem_cons_self ..)

lemma Decides.isFileName {name : String} (h : Decides dir t b name) : IsFileName name := by
  have hnames : ∀ n ∈ b.candidates, n ≠ "" ∧ n ≠ "." ∧ n ≠ ".." ∧ '/' ∉ n.toList := by
    cases b <;> decide
  obtain ⟨hempty, hdot, hdots, hslash⟩ := hnames name h.mem_candidates
  exact ⟨hempty, hdot, hdots, hslash⟩

/-- The file under a name that does not decide is elsewhere. -/
lemma changedElsewhere_setFile {name : String} {address : List String}
    (bytes? : Option (List UInt8)) (hname : IsFileName name) (hnot : ¬ Decides dir t b name)
    (haddress : t.locate? (join dir name) = some address)
    (hfile : t.node? address ≠ some .directory) :
    ChangedElsewhere dir b t (t.setFile address bytes?) := by
  constructor
  case workDir => rfl
  case directories =>
    intro a
    by_cases ha : a = address
    · subst ha
      cases bytes? <;> simp [setFile, hfile]
    · simp [setFile, ha]
  case decisive =>
    intro other a hother ha
    have hne : a ≠ address := by
      rintro rfl
      have hsame : name = other :=
        eq_of_locate?_join hname hother.isFileName haddress ha
      exact hnot (hsame ▸ hother)
    simp [setFile, hne]

end Decides

/-! ## The scan of a directory -/

section Scan

variable (config : Config) (dir : String) (t : FileTree)

lemma find?_filterMap (summary? : Benchmark → Option RunSummary) (bs : List Benchmark)
    (b : Benchmark) :
    find? (bs.filterMap fun c => (summary? c).map fun s => (c, s)) b =
      if b ∈ bs then summary? b else none := by
  induction bs with
  | nil => rfl
  | cons c bs ih =>
    cases hc : summary? c with
    | none =>
      rw [List.filterMap_cons_none (by rw [hc]; rfl), ih]
      by_cases hb : b = c
      · subst hb
        simp [hc]
      · simp [hb]
    | some s =>
      rw [List.filterMap_cons_some (by rw [hc]; rfl)]
      by_cases hb : b = c
      · subst hb
        simp [find?, hc]
      · have hne : c ≠ b := Ne.symm hb
        rw [find?, List.find?_cons_of_neg (by simpa using hne), ← find?, ih]
        simp [hb]

lemma scan_eq : scan config dir t = Benchmark.all.filterMap fun b =>
    ((chosen? dir t b).map (summaryAt config t)).map fun s => (b, s) := by
  simp only [scan, Option.map_map, Function.comp_def]

lemma find?_scan (b : Benchmark) :
    find? (scan config dir t) b = (chosen? dir t b).map (summaryAt config t) := by
  rw [scan_eq, find?_filterMap, if_pos b.mem_all]

lemma isScan_scan : IsScan config dir t (scan config dir t) := by
  have hkeys : (scan config dir t).map Prod.fst =
      Benchmark.all.filter fun b => (chosen? dir t b).isSome := by
    rw [scan, List.map_filterMap, ← List.filterMap_eq_filter]
    refine List.filterMap_congr fun b _ => ?_
    cases hb : chosen? dir t b <;> simp [Option.guard, hb]
  constructor
  case mem_keys =>
    intro b
    rw [hkeys, List.mem_filter, chosen?_eq_map, Option.isSome_map, List.find?_isSome]
    simp [b.mem_all]
  case nodup_keys =>
    rw [hkeys]
    exact List.Nodup.filter _ (by decide)
  case summary =>
    intro e he
    obtain ⟨b, -, hb⟩ := List.mem_filterMap.mp he
    obtain ⟨path, hpath, rfl⟩ := Option.map_eq_some_iff.mp hb
    obtain ⟨name, hname, hfile, rfl⟩ := exists_of_chosen? hpath
    exact ⟨name, hname, hfile, run_ofFile config hfile⟩

end Scan

/-! ### A directory with two logs of one benchmark -/

/-- A tree with a directory under the name of a log, and with two logs of another benchmark. -/
def shadowedTree : FileTree :=
  ((((FileTree.empty.putDirectories ["logs"]).put ["logs", "dhrystone.log"] .directory).put
    ["logs", "dhrystone_full.log"] (.file [])).put
    ["logs", "coremark.log"] (.file [91, 98, 114, 117, 93])).put
    ["logs", "coremark_full.log"] (.file [10])

/-- The second log of a benchmark does not decide. -/
lemma not_decides_shadowedTree :
    ¬ Decides "/work/logs" shadowedTree .coremark "coremark_full.log" := by
  rintro ⟨before, after, hsplit, hbefore⟩
  cases before with
  | nil =>
    have hname : "coremark.log" = "coremark_full.log" := (List.cons.inj hsplit).1
    revert hname
    decide
  | cons n before =>
    obtain rfl : "coremark.log" = n := (List.cons.inj hsplit).1
    have hfile : shadowedTree.isFile (join "/work/logs" "coremark.log") = false :=
      hbefore _ (List.mem_cons_self ..)
    revert hfile
    decide

end PipelineProfile.Directory
