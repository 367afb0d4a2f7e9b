import DiagnosticHints.Analysis
import Mathlib.Data.List.Forall2

/-!
# Tokens that are loaded once

An analysis keeps the tokens of the files it has come across, and asks for those of a file when its
first diagnostic comes up. In any monad this is the same as loading each distinct file first, in
the order of first appearance, and making all suggestions from the table that results. A log of the
calls shows that no file is asked for twice, however the answers depend on each other. Where the
tokens come without an effect, each diagnostic simply gets those of its own file.
-/

namespace DiagnosticHints

namespace Analysis

/-- The files of some diagnostics, each once, in the order of first appearance. -/
def files (ds : List Diagnostic) : List Text := (ds.map (·.file)).eraseDups

/-- The files of some diagnostics without those seen before, each once, in the order of first
appearance. -/
def freshFiles (seen : List Text) : List Diagnostic → List Text
  | [] => []
  | d :: ds =>
    if d.file ∈ seen then freshFiles seen ds
    else d.file :: freshFiles (seen ++ [d.file]) ds

/-- The findings for some diagnostics, by tokens that are loaded already. -/
def findings (loaded : Loaded) (options : Options) (ds : List Diagnostic) : List Finding :=
  ds.map fun d => ⟨d, d.suggest? ((loaded.lookup d.file).getD []) options⟩

theorem mem_files {ds : List Diagnostic} {file : Text} :
    file ∈ files ds ↔ ∃ d ∈ ds, d.file = file := by
  rw [files, List.mem_eraseDups, List.mem_map]

theorem freshFiles_eq (seen : List Text) (ds : List Diagnostic) :
    freshFiles seen ds = ((ds.map (·.file)).filter fun file => !seen.contains file).eraseDups := by
  induction ds generalizing seen with
  | nil => rfl
  | cons d ds ih =>
    rw [freshFiles, List.map_cons]
    by_cases hseen : d.file ∈ seen
    · rw [if_pos hseen, ih, List.filter_cons_of_neg (by simpa using hseen)]
    · rw [if_neg hseen, ih, List.filter_cons_of_pos (by simpa using hseen), List.eraseDups_cons,
        List.filter_filter]
      congr 3
      funext file
      simp only [List.contains_eq_mem, List.mem_append, List.mem_singleton]
      by_cases hfile : file = d.file <;> simp [hfile]

theorem freshFiles_nil (ds : List Diagnostic) : freshFiles [] ds = files ds := by
  rw [freshFiles_eq, files, List.filter_eq_self.2]
  intro file _
  rfl

theorem mem_keys_iff {loaded : Loaded} {file : Text} :
    file ∈ loaded.map (·.1) ↔ (loaded.lookup file).isSome = true := by
  simp only [List.lookup_isSome_iff, List.mem_map, beq_iff_eq, @eq_comm _ _ file]

/-! ## In any monad -/

section

variable {m : Type → Type} [Monad m]

/-- The tokens of some files, loaded one after the other. -/
def load (tokensFor : Text → m (List Token)) (names : List Text) : m Loaded :=
  names.mapM fun file => do return (file, ← tokensFor file)

variable (tokensFor : Text → m (List Token)) (options : Options)

theorem load_nil : load tokensFor [] = pure [] := by
  rw [load, List.mapM_nil]

variable [LawfulMonad m]

theorem load_cons (file : Text) (names : List Text) :
    load tokensFor (file :: names) = do
      let tokens ← tokensFor file
      let new ← load tokensFor names
      return (file, tokens) :: new := by
  simp [load]

/-- A file that is known has the tokens it was loaded with; else the tokens are loaded now. -/
theorem run_tokensOnce (file : Text) (loaded : Loaded) :
    (tokensOnce tokensFor file).run loaded =
      match loaded.lookup file with
      | some tokens => pure (tokens, loaded)
      | none => do
        let tokens ← tokensFor file
        return (tokens, loaded ++ [(file, tokens)]) := by
  rw [tokensOnce]
  cases h : loaded.lookup file with
  | some tokens => simp [h]
  | none => simp [h]

/-- Whatever is loaded already, going through some diagnostics loads their fresh files. -/
theorem run_mapM_finding (ds : List Diagnostic) (loaded : Loaded) :
    (ds.mapM (finding tokensFor options)).run loaded = do
      let new ← load tokensFor (freshFiles (loaded.map (·.1)) ds)
      return (findings (loaded ++ new) options ds, loaded ++ new) := by
  induction ds generalizing loaded with
  | nil => simp [freshFiles, load_nil, findings]
  | cons d ds ih =>
    rw [List.mapM_cons, finding]
    simp only [StateT.run_bind, run_tokensOnce, StateT.run_pure]
    cases h : loaded.lookup d.file with
    | some tokens =>
      have hmem : d.file ∈ loaded.map (·.1) := mem_keys_iff.2 (by rw [h]; rfl)
      simp only [pure_bind, ih, freshFiles, if_pos hmem, bind_assoc]
      simp [findings, List.lookup_append, h]
    | none =>
      have hmem : d.file ∉ loaded.map (·.1) := by
        rw [mem_keys_iff, h]
        exact Bool.false_ne_true
      simp only [pure_bind, ih, freshFiles, if_neg hmem, bind_assoc, load_cons]
      simp [findings, List.lookup_append, h]

/-- The tokens of each distinct file are loaded, in the order of first appearance, and each
diagnostic gets its suggestion from the tokens of its own file. -/
theorem ofDiagnostics_eq_load (ds : List Diagnostic) :
    ofDiagnostics tokensFor options ds = do
      let loaded ← load tokensFor (files ds)
      return findings loaded options ds := by
  rw [ofDiagnostics, StateT.run'_eq, run_mapM_finding, List.map_nil, freshFiles_nil]
  simp

end

/-! ## The calls of a source -/

section

variable {m : Type → Type} [Monad m]

/-- A source of tokens that keeps a log of its calls, each with the answer it gave. -/
def logged (tokensFor : Text → m (List Token)) (file : Text) : StateT Loaded m (List Token) := do
  let tokens ← tokensFor file
  modify (· ++ [(file, tokens)])
  return tokens

variable [LawfulMonad m]

/-- Loading some files calls the source for each of them, and the log is what is loaded. -/
theorem run_load_logged (tokensFor : Text → m (List Token)) (names : List Text)
    (calls : Loaded) :
    (load (logged tokensFor) names).run calls = do
      let new ← load tokensFor names
      return (new, calls ++ new) := by
  induction names generalizing calls with
  | nil => simp [load_nil]
  | cons name names ih =>
    rw [load_cons, load_cons]
    simp [logged, ih]

/-- The log of an analysis is what it loads. -/
theorem run_ofDiagnostics_logged (tokensFor : Text → m (List Token)) (options : Options)
    (ds : List Diagnostic) :
    (ofDiagnostics (logged tokensFor) options ds).run [] = do
      let loaded ← load tokensFor (files ds)
      return (findings loaded options ds, loaded) := by
  rw [ofDiagnostics_eq_load, StateT.run_bind, run_load_logged]
  simp

end

theorem nodup_freshFiles (seen : List Text) (ds : List Diagnostic) :
    (freshFiles seen ds).Nodup ∧ ∀ file ∈ freshFiles seen ds, file ∉ seen := by
  induction ds generalizing seen with
  | nil => simp [freshFiles]
  | cons d ds ih =>
    rw [freshFiles]
    by_cases hseen : d.file ∈ seen
    · rw [if_pos hseen]
      exact ih seen
    · rw [if_neg hseen]
      obtain ⟨hnodup, hfresh⟩ := ih (seen ++ [d.file])
      refine ⟨List.nodup_cons.2 ⟨?_, hnodup⟩, ?_⟩
      · intro hmem
        exact hfresh _ hmem (by simp)
      · intro file hfile hmem
        rcases List.mem_cons.1 hfile with rfl | hfile
        · exact hseen hmem
        · exact hfresh file hfile (List.mem_append_left _ hmem)

theorem nodup_files (ds : List Diagnostic) : (files ds).Nodup := by
  rw [← freshFiles_nil]
  exact (nodup_freshFiles [] ds).1

section

variable {σ : Type} (tokensFor : Text → StateM σ (List Token)) (options : Options)

theorem keys_load (names : List Text) (s : σ) :
    ((load tokensFor names).run s).1.map (·.1) = names := by
  induction names generalizing s with
  | nil => rw [load_nil]; rfl
  | cons name names ih =>
    rw [load_cons]
    show name :: ((load tokensFor names).run ((tokensFor name).run s).2).1.map (·.1) =
      name :: names
    rw [ih]

/-- Each finding is made from the tokens loaded for the file of its diagnostic. -/
theorem forall₂_findings {loaded : Loaded} {ds : List Diagnostic}
    (h : ∀ d ∈ ds, d.file ∈ loaded.map (·.1)) :
    List.Forall₂ (fun d x => ∃ tokens, (d.file, tokens) ∈ loaded ∧
      x = ⟨d, d.suggest? tokens options⟩) ds (findings loaded options ds) := by
  rw [findings, List.forall₂_map_right_iff, List.forall₂_same]
  intro d hd
  obtain ⟨tokens, hlookup, hmem⟩ := Text.exists_lookup_of_mem_keys (h d hd)
  exact ⟨tokens, hmem, by rw [hlookup, Option.getD_some]⟩

/-- **One call for each file.**  Let the source of tokens have a memory, so that its answers may
depend on all calls before. An analysis calls it for each distinct file once, in the order of first
appearance, and there is one finding for each diagnostic, in order, with the suggestion made from
the answer to the only call for its file. Keeping the log changes neither the findings nor what the
source remembers. -/
theorem ofDiagnostics_logged (ds : List Diagnostic) (s : σ) :
    ∃ found calls s',
      ((ofDiagnostics (logged tokensFor) options ds).run []).run s = ((found, calls), s') ∧
      (ofDiagnostics tokensFor options ds).run s = (found, s') ∧
      calls.map (·.1) = files ds ∧ (files ds).Nodup ∧
      List.Forall₂ (fun d x => ∃ tokens, (d.file, tokens) ∈ calls ∧
        x = ⟨d, d.suggest? tokens options⟩) ds found := by
  have hkeys := keys_load tokensFor (files ds) s
  refine ⟨findings ((load tokensFor (files ds)).run s).1 options ds,
    ((load tokensFor (files ds)).run s).1, ((load tokensFor (files ds)).run s).2, ?_, ?_, hkeys,
    nodup_files ds, ?_⟩
  · rw [run_ofDiagnostics_logged]
    rfl
  · rw [ofDiagnostics_eq_load]
    rfl
  · apply forall₂_findings
    intro d hd
    rw [hkeys, mem_files]
    exact ⟨d, hd, rfl⟩

end

/-! ## Without effects -/

variable (tokensFor : Text → Id (List Token)) (options : Options)

/-- The table that assigns each name its tokens. -/
def table (names : List Text) : Loaded := names.map fun file => (file, (tokensFor file).run)

theorem lookup_table {names : List Text} {file : Text} (h : file ∈ names) :
    (table tokensFor names).lookup file = some (tokensFor file).run := by
  induction names with
  | nil => cases h
  | cons name names ih =>
    rw [table, List.map_cons, List.lookup_cons]
    by_cases hname : file = name
    · rw [hname, beq_self_eq_true]
    · rw [beq_false_of_ne hname]
      exact ih ((List.mem_cons.1 h).resolve_left hname)

theorem run_load (names : List Text) : (load tokensFor names).run = table tokensFor names := by
  induction names with
  | nil => rfl
  | cons name names ih =>
    rw [load_cons, table, List.map_cons, ← table, ← ih]
    rfl

/-- Each diagnostic gets its suggestion from the tokens of its own file. -/
theorem run_ofDiagnostics (ds : List Diagnostic) :
    (ofDiagnostics tokensFor options ds).run =
      ds.map fun d => ⟨d, d.suggest? (tokensFor d.file).run options⟩ := by
  rw [ofDiagnostics_eq_load, Id.run_bind, run_load, Id.run_pure, findings]
  refine List.map_congr_left fun d hd => ?_
  rw [lookup_table tokensFor (mem_files.2 ⟨d, hd, rfl⟩), Option.getD_some]

theorem map_diagnostic_ofDiagnostics (ds : List Diagnostic) :
    (ofDiagnostics tokensFor options ds).run.map (·.diagnostic) = ds := by
  rw [run_ofDiagnostics, List.map_map]
  exact List.map_id ds

/-- Tokens that agree on the files of some diagnostics make the same findings. -/
theorem ofDiagnostics_congr {other : Text → Id (List Token)} {ds : List Diagnostic}
    (h : ∀ file ∈ files ds, (tokensFor file).run = (other file).run) :
    (ofDiagnostics tokensFor options ds).run = (ofDiagnostics other options ds).run := by
  rw [run_ofDiagnostics, run_ofDiagnostics]
  refine List.map_congr_left fun d hd => ?_
  rw [h d.file (mem_files.2 ⟨d, hd, rfl⟩)]

end Analysis

end DiagnosticHints
