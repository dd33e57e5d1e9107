import FormatterModules.Proofs.Engine.ImportOrder.Runs
import FormatterModules.Proofs.Text.Blank
import Mathlib.Data.List.Forall2

namespace FormatterModules.Engine

namespace ImportLine

/-- A run of imports, without blanks around them, or a line that is no import. -/
inductive Block
  | imports (run : List (List Char))
  | other (line : List Char)

namespace Block

def lines : Block → List (List Char)
  | imports run => run
  | other line => [line]

def run? : Block → Option (List (List Char))
  | imports run => some run
  | other _ => none

def sort (groups : ImportGroups) : Block → Block
  | imports run => imports (sortRun groups run)
  | other line => other line

end Block

/-- The block of a run, the latest import first, if there is any. -/
def closeRun (run : List (List Char)) : List Block :=
  if run = [] then [] else [.imports run.reverse]

/-- The blocks of the lines behind a run in progress, the latest import first. -/
def blocks (run : List (List Char)) : List (List Char) → List Block
  | [] => closeRun run
  | line :: rest =>
    if isImport (Text.trim line) then blocks (Text.trim line :: run) rest
    else closeRun run ++ .other line :: blocks [] rest

def runs (lines : List (List Char)) : List (List (List Char)) :=
  (blocks [] lines).filterMap Block.run?

/-- The lines with every run in order. -/
def arranged (groups : ImportGroups) (lines : List (List Char)) : List (List Char) :=
  (blocks [] lines).flatMap fun b => (b.sort groups).lines

def Complete (lines : List (List Char)) : Prop :=
  ∀ line ∈ lines, isImport (Text.trim line) = true → isComplete (Text.trim line) = true

/-- Imports without the blanks around them, other lines as they are. -/
def tidy (line : List Char) : List Char :=
  if isImport (Text.trim line) then Text.trim line else line

def others (lines : List (List Char)) : List (List Char) :=
  lines.filter fun line => !isImport (Text.trim line)

variable {groups : ImportGroups} {run : List (List Char)} {lines : List (List Char)}
  {line : List Char}

theorem flatMap_closeRun {f : Block → List (List Char)} (hf : f (.imports []) = []) :
    (closeRun run).flatMap f = f (.imports run.reverse) := by
  unfold closeRun
  split
  · next h =>
    rw [h]
    exact hf.symm
  · simp

theorem complete_cons_iff :
    Complete (line :: lines) ↔
      (isImport (Text.trim line) = true → isComplete (Text.trim line) = true) ∧ Complete lines :=
  List.forall_mem_cons

theorem arrange_eq_ok_iff (groups : ImportGroups) (number : Nat) (run lines : List (List Char))
    (result : List (List Char)) :
    groups.arrange number run lines = .ok result ↔
      Complete lines ∧ (blocks run lines).flatMap (fun b => (b.sort groups).lines) = result := by
  induction lines generalizing number run result with
  | nil =>
    rw [ImportGroups.arrange, blocks, flatMap_closeRun sortRun_nil]
    simp [Complete, Block.sort, Block.lines]
  | cons line rest ih =>
    rw [ImportGroups.arrange, blocks, complete_cons_iff]
    by_cases himport : isImport (Text.trim line) = true
    · rw [if_pos himport, if_pos himport]
      by_cases hcomplete : isComplete (Text.trim line) = true
      · rw [if_pos hcomplete, ih]
        simp [hcomplete]
      · rw [if_neg hcomplete]
        simp [himport, hcomplete]
    · rw [if_neg himport, if_neg himport, List.flatMap_append, flatMap_closeRun sortRun_nil]
      cases harrange : groups.arrange (number + 1) [] rest with
      | error e =>
        have hrest : ¬ Complete rest := fun h => by
          have hok := (ih (number + 1) [] _).mpr ⟨h, rfl⟩
          rw [harrange] at hok
          cases hok
        simp [Except.map, hrest]
      | ok arranged =>
        obtain ⟨hrest, hresult⟩ := (ih (number + 1) [] arranged).mp harrange
        rw [List.flatMap_cons, hresult]
        simp [Except.map, himport, hrest, Block.sort, Block.lines]

theorem flatMap_lines_blocks (run lines : List (List Char)) :
    (blocks run lines).flatMap Block.lines = run.reverse ++ lines.map tidy := by
  induction lines generalizing run with
  | nil =>
    rw [blocks, flatMap_closeRun rfl, List.map_nil, List.append_nil]
    rfl
  | cons line rest ih =>
    rw [blocks, List.map_cons, tidy]
    split
    · rw [ih, List.reverse_cons, List.append_assoc]
      rfl
    · rw [List.flatMap_append, flatMap_closeRun rfl, List.flatMap_cons, ih]
      rfl

def IsTidyImport (line : List Char) : Prop :=
  isImport line = true ∧ Text.trim line = line

theorem isTidyImport_trim (h : isImport (Text.trim line) = true) : IsTidyImport (Text.trim line) :=
  ⟨h, Text.trim_trim line⟩

theorem IsTidyImport.isImport_trim (h : IsTidyImport line) : isImport (Text.trim line) = true := by
  rw [h.2]
  exact h.1

/-- Blocks as they are made of lines: no run is empty, and none follows another. -/
inductive Separated : List Block → Prop
  | nil : Separated []
  | other {line : List Char} {rest : List Block} (h : isImport (Text.trim line) = false)
      (hrest : Separated rest) : Separated (.other line :: rest)
  | last {run : List (List Char)} (hne : run ≠ []) (h : ∀ line ∈ run, IsTidyImport line) :
      Separated [.imports run]
  | imports {run : List (List Char)} {line : List Char} {rest : List Block} (hne : run ≠ [])
      (h : ∀ line ∈ run, IsTidyImport line) (hrest : Separated (.other line :: rest)) :
      Separated (.imports run :: .other line :: rest)

theorem separated_blocks (hrun : ∀ line ∈ run, IsTidyImport line) (lines : List (List Char)) :
    Separated (blocks run lines) := by
  induction lines generalizing run with
  | nil =>
    rw [blocks, closeRun]
    split
    · exact .nil
    · next hne =>
      exact .last (by simpa using hne) fun line h => hrun line (List.mem_reverse.mp h)
  | cons line rest ih =>
    rw [blocks]
    split
    · next himport =>
      exact ih (List.forall_mem_cons.mpr ⟨isTidyImport_trim himport, hrun⟩)
    · next himport =>
      have hrest : Separated (.other line :: blocks [] rest) :=
        .other (eq_false_of_ne_true himport) (ih fun _ h => nomatch h)
      rw [closeRun]
      split
      · exact hrest
      · next hne =>
        exact .imports (by simpa using hne) (fun line h => hrun line (List.mem_reverse.mp h)) hrest

theorem Separated.sort {bs : List Block} (h : Separated bs) (groups : ImportGroups) :
    Separated (bs.map (Block.sort groups)) := by
  have hsorted : ∀ {run : List (List Char)}, run ≠ [] → (∀ line ∈ run, IsTidyImport line) →
      sortRun groups run ≠ [] ∧ ∀ line ∈ sortRun groups run, IsTidyImport line := by
    intro run hne hrun
    obtain ⟨line, hline⟩ := List.exists_mem_of_ne_nil run hne
    exact ⟨List.ne_nil_of_mem (mem_sortRun.mpr hline), fun l hl => hrun l (mem_sortRun.mp hl)⟩
  induction h with
  | nil => exact .nil
  | other h _ ih => exact .other h ih
  | last hne h =>
    obtain ⟨hne, h⟩ := hsorted hne h
    exact .last hne h
  | imports hne h _ ih =>
    obtain ⟨hne, h⟩ := hsorted hne h
    exact .imports hne h ih

theorem blocks_append {imports : List (List Char)} (h : ∀ line ∈ imports, IsTidyImport line)
    (run lines : List (List Char)) :
    blocks run (imports ++ lines) = blocks (imports.reverse ++ run) lines := by
  induction imports generalizing run with
  | nil => rfl
  | cons line imports ih =>
    obtain ⟨hline, hrest⟩ := List.forall_mem_cons.mp h
    rw [List.cons_append, blocks, if_pos hline.isImport_trim, hline.2, ih hrest]
    simp

theorem blocks_cons_other (h : isImport (Text.trim line) = false) (run rest : List (List Char)) :
    blocks run (line :: rest) = closeRun run ++ .other line :: blocks [] rest := by
  rw [blocks, h, if_neg Bool.false_ne_true]

theorem closeRun_reverse (hne : run ≠ []) : closeRun run.reverse = [.imports run] := by
  rw [closeRun, if_neg (by simpa using hne), List.reverse_reverse]

theorem Separated.blocks_flatMap {bs : List Block} (h : Separated bs) :
    blocks [] (bs.flatMap Block.lines) = bs := by
  induction h with
  | nil => rfl
  | @other line rest h _ ih =>
    have hlines : (Block.other line :: rest).flatMap Block.lines =
        line :: rest.flatMap Block.lines := rfl
    rw [hlines, blocks_cons_other h, ih]
    rfl
  | @last run hne h =>
    have hlines : [Block.imports run].flatMap Block.lines = run ++ [] := rfl
    rw [hlines, blocks_append h, List.append_nil, blocks, closeRun_reverse hne]
  | @imports run line rest hne h hrest ih =>
    obtain ⟨hother, -⟩ : isImport (Text.trim line) = false ∧ Separated rest := by
      cases hrest with
      | other h hrest => exact ⟨h, hrest⟩
    have hlines : (Block.imports run :: .other line :: rest).flatMap Block.lines =
        run ++ line :: rest.flatMap Block.lines := rfl
    have hrest : (Block.other line :: rest).flatMap Block.lines =
        line :: rest.flatMap Block.lines := rfl
    rw [hrest, blocks_cons_other hother] at ih
    rw [hlines, blocks_append h, List.append_nil, blocks_cons_other hother, closeRun_reverse hne]
    exact congrArg (Block.imports run :: ·) ih

theorem blocks_arranged (groups : ImportGroups) (lines : List (List Char)) :
    blocks [] (arranged groups lines) = (blocks [] lines).map (Block.sort groups) := by
  have hseparated := (separated_blocks (List.forall_mem_nil _) lines).sort groups
  rw [← hseparated.blocks_flatMap, List.flatMap_map]
  rfl

theorem runs_arranged (groups : ImportGroups) (lines : List (List Char)) :
    runs (arranged groups lines) = (runs lines).map (sortRun groups) := by
  rw [runs, blocks_arranged, runs, List.filterMap_map, List.map_filterMap]
  congr 1
  funext b
  cases b <;> rfl

theorem mem_arranged {groups : ImportGroups} :
    line ∈ arranged groups lines ↔ line ∈ lines.map tidy := by
  have hlines : (blocks [] lines).flatMap Block.lines = lines.map tidy := flatMap_lines_blocks [] lines
  have hsort : ∀ b : Block, line ∈ (b.sort groups).lines ↔ line ∈ b.lines := by
    intro b
    cases b with
    | imports run => exact mem_sortRun
    | other line => rfl
  rw [← hlines, arranged, List.mem_flatMap, List.mem_flatMap]
  simp only [hsort]

theorem trim_tidy (line : List Char) : Text.trim (tidy line) = Text.trim line := by
  unfold tidy
  split
  · exact Text.trim_trim line
  · rfl

theorem tidy_of_other (h : isImport (Text.trim line) = false) : tidy line = line := by
  rw [tidy, h, if_neg Bool.false_ne_true]

theorem mem_others : line ∈ others lines ↔ line ∈ lines ∧ isImport (Text.trim line) = false := by
  simp [others]

theorem others_append (lines more : List (List Char)) :
    others (lines ++ more) = others lines ++ others more :=
  List.filter_append lines more

theorem others_cons_of_import (h : isImport (Text.trim line) = true) (lines : List (List Char)) :
    others (line :: lines) = others lines :=
  List.filter_cons_of_neg (by simp [h])

theorem others_imports (h : ∀ l ∈ run, IsTidyImport l) : others run = [] :=
  List.filter_eq_nil_iff.mpr fun l hl => by simp [(h l hl).isImport_trim]

theorem others_map_tidy (lines : List (List Char)) : others (lines.map tidy) = others lines := by
  have hkept : ∀ line ∈ others lines, tidy line = line := fun line hline =>
    tidy_of_other (mem_others.mp hline).2
  unfold others at hkept ⊢
  rw [List.filter_map]
  simp only [Function.comp_def, trim_tidy]
  rw [List.map_congr_left hkept, List.map_id']

theorem Separated.tidy_of_mem {bs : List Block} (h : Separated bs) (hrun : .imports run ∈ bs) :
    run ≠ [] ∧ ∀ l ∈ run, IsTidyImport l := by
  induction h with
  | nil => cases hrun
  | other _ _ ih => exact ih (by simpa using hrun)
  | last hne h =>
    obtain rfl : run = _ := by simpa using hrun
    exact ⟨hne, h⟩
  | imports hne h _ ih =>
    obtain hrun | hrun := List.mem_cons.mp hrun
    · obtain rfl := Block.imports.inj hrun
      exact ⟨hne, h⟩
    · exact ih hrun

theorem others_arranged (groups : ImportGroups) (lines : List (List Char)) :
    others (arranged groups lines) = others lines := by
  have hseparated : Separated (blocks [] lines) := separated_blocks (List.forall_mem_nil _) lines
  have hsort : ∀ b ∈ blocks [] lines, others (b.sort groups).lines = others b.lines := by
    intro b hb
    cases b with
    | imports run =>
      obtain ⟨-, hrun⟩ := hseparated.tidy_of_mem hb
      have hsorted : ∀ l ∈ sortRun groups run, IsTidyImport l := fun l hl =>
        hrun l (mem_sortRun.mp hl)
      exact (others_imports hsorted).trans (others_imports hrun).symm
    | other line => rfl
  have htidied : others ((blocks [] lines).flatMap Block.lines) = others lines := by
    rw [flatMap_lines_blocks]
    exact others_map_tidy lines
  unfold others at hsort htidied ⊢
  rw [← htidied, arranged, List.filter_flatMap, List.filter_flatMap]
  exact List.flatMap_congr hsort

theorem tidy_of_mem_arranged {groups : ImportGroups} (h : line ∈ arranged groups lines) :
    tidy line = line := by
  obtain ⟨l, -, rfl⟩ := List.mem_map.mp (mem_arranged.mp h)
  by_cases himport : isImport (Text.trim l) = true
  · rw [tidy, trim_tidy, if_pos himport, tidy, if_pos himport]
  · rw [tidy_of_other (eq_false_of_ne_true himport), tidy_of_other (eq_false_of_ne_true himport)]

theorem Complete.arranged (h : Complete lines) (groups : ImportGroups) :
    Complete (arranged groups lines) := by
  intro line hline himport
  obtain ⟨l, hl, rfl⟩ := List.mem_map.mp (mem_arranged.mp hline)
  rw [trim_tidy] at himport ⊢
  exact h l hl himport

theorem arranged_eq_self (hruns : ∀ run ∈ runs lines, sortRun groups run = run)
    (htidy : ∀ line ∈ lines, tidy line = line) : arranged groups lines = lines := by
  have hlines : (blocks [] lines).flatMap Block.lines = lines.map tidy := flatMap_lines_blocks [] lines
  have hsort : ∀ b ∈ blocks [] lines, b.sort groups = b := by
    intro b hb
    cases b with
    | imports run => exact congrArg Block.imports (hruns run (List.mem_filterMap.mpr ⟨_, hb, rfl⟩))
    | other line => rfl
  have htidied : lines.map tidy = lines := by
    rw [List.map_congr_left htidy, List.map_id']
  rw [arranged, List.flatMap_congr fun b hb => by rw [hsort b hb], hlines, htidied]

theorem blocks_append_other (h : isImport (Text.trim line) = false)
    (run lines rest : List (List Char)) :
    blocks run (lines ++ line :: rest) = blocks run lines ++ .other line :: blocks [] rest := by
  induction lines generalizing run with
  | nil => exact blocks_cons_other h run rest
  | cons l lines ih =>
    rw [List.cons_append, blocks, blocks]
    split
    · exact ih _
    · rw [ih [], List.append_assoc]
      rfl

theorem exists_blocks_concat (h : isImport (Text.trim line) = true)
    (hrun : ∀ l ∈ run, IsTidyImport l) (lines : List (List Char)) :
    ∃ bs last, blocks run (lines ++ [line]) = bs ++ [.imports last] ∧ last ≠ [] ∧
      ∀ l ∈ last, IsTidyImport l := by
  induction lines generalizing run with
  | nil =>
    refine ⟨[], (Text.trim line :: run).reverse, ?_, by simp, fun l hl => ?_⟩
    · rw [List.nil_append, blocks, if_pos h]
      rfl
    · obtain rfl | hl := List.mem_cons.mp (List.mem_reverse.mp hl)
      · exact isTidyImport_trim h
      · exact hrun l hl
  | cons l lines ih =>
    rw [List.cons_append, blocks]
    split
    · next himport => exact ih (List.forall_mem_cons.mpr ⟨isTidyImport_trim himport, hrun⟩)
    · obtain ⟨bs, last, hblocks, hlast⟩ := ih (List.forall_mem_nil _)
      exact ⟨closeRun run ++ .other l :: bs, last, by rw [hblocks]; simp, hlast⟩

/-- The last of arranged lines is an import if and only if the last of the lines is. -/
theorem exists_arranged_concat (groups : ImportGroups) (lines : List (List Char))
    (hline : line ≠ []) :
    ∃ init last, arranged groups (lines ++ [line]) = init ++ [last] ∧ last ≠ [] ∧
      others init = others lines ∧ others [last] = others [line] := by
  by_cases h : isImport (Text.trim line) = true
  · obtain ⟨bs, run, hblocks, hne, hrun⟩ := exists_blocks_concat h (List.forall_mem_nil _) lines
    obtain ⟨init, last, hsort⟩ : ∃ init last, sortRun groups run = init ++ [last] := by
      obtain ⟨l, hl⟩ := List.exists_mem_of_ne_nil run hne
      have hne : sortRun groups run ≠ [] := List.ne_nil_of_mem (mem_sortRun.mpr hl)
      exact ⟨_, _, (List.dropLast_concat_getLast hne).symm⟩
    have hmem : last ∈ sortRun groups run := by rw [hsort]; simp
    have hlast : IsTidyImport last := hrun last (mem_sortRun.mp hmem)
    have harranged : arranged groups (lines ++ [line]) =
        bs.flatMap (fun b => (b.sort groups).lines) ++ init ++ [last] := by
      rw [arranged, hblocks, List.flatMap_append, List.append_assoc, ← hsort]
      simp [Block.sort, Block.lines]
    have hothers := others_arranged groups (lines ++ [line])
    have hnone : others [last] = [] := others_cons_of_import hlast.isImport_trim []
    have hnone' : others [line] = [] := others_cons_of_import h []
    rw [harranged, others_append, others_append lines, hnone, hnone', List.append_nil,
      List.append_nil] at hothers
    refine ⟨_, last, harranged, fun he => ?_, hothers, hnone.trans hnone'.symm⟩
    rw [he] at hlast
    exact absurd hlast.1 (by decide)
  · have h := eq_false_of_ne_true h
    have harranged : arranged groups (lines ++ [line]) = arranged groups lines ++ [line] := by
      rw [arranged, blocks_append_other h, List.flatMap_append]
      rfl
    exact ⟨_, line, harranged, hline, others_arranged groups lines, rfl⟩

/-- The second line is the first, or both are no imports and differ in blanks at the ends only. -/
def Respelled (line other : List Char) : Prop :=
  other = line ∨ isImport (Text.trim line) = false ∧ Text.trim other = Text.trim line

theorem blocks_respelled {others : List (List Char)} (h : List.Forall₂ Respelled lines others)
    (run : List (List Char)) :
    (blocks run lines).filterMap Block.run? = (blocks run others).filterMap Block.run? := by
  induction h generalizing run with
  | nil => rfl
  | cons hline _ ih =>
    rw [blocks, blocks]
    obtain rfl | ⟨hother, htrim⟩ := hline
    · split
      · exact ih _
      · rw [List.filterMap_append, List.filterMap_append]
        exact congrArg _ (ih [])
    · rw [htrim, hother, if_neg Bool.false_ne_true, if_neg Bool.false_ne_true,
        List.filterMap_append, List.filterMap_append]
      exact congrArg _ (ih [])

theorem exists_respelled_of_mem {others : List (List Char)}
    (h : List.Forall₂ Respelled lines others) {other : List Char} (hother : other ∈ others) :
    ∃ line ∈ lines, Respelled line other := by
  induction h with
  | nil => cases hother
  | cons hline _ ih =>
    obtain rfl | hother := List.mem_cons.mp hother
    · exact ⟨_, List.mem_cons_self, hline⟩
    · obtain ⟨line, hmem, hrespelled⟩ := ih hother
      exact ⟨line, List.mem_cons_of_mem _ hmem, hrespelled⟩

theorem arranged_respelled {others : List (List Char)} (h : Complete lines)
    (hothers : List.Forall₂ Respelled (arranged groups lines) others) :
    Complete others ∧ arranged groups others = others ∧
      runs others = (runs lines).map (sortRun groups) := by
  have hruns : runs others = (runs lines).map (sortRun groups) := by
    rw [← runs_arranged]
    exact (blocks_respelled hothers []).symm
  have hfrom : ∀ line ∈ others, ∃ l ∈ arranged groups lines, Respelled l line :=
    fun line hline => exists_respelled_of_mem hothers hline
  refine ⟨?_, arranged_eq_self ?_ ?_, hruns⟩
  · intro line hline himport
    obtain ⟨l, hl, rfl | ⟨hother, htrim⟩⟩ := hfrom line hline
    · exact h.arranged groups line hl himport
    · rw [htrim, hother] at himport
      cases himport
  · intro run hrun
    rw [hruns] at hrun
    obtain ⟨r, -, rfl⟩ := List.mem_map.mp hrun
    exact sortRun_sortRun groups r
  · intro line hline
    obtain ⟨l, hl, rfl | ⟨hother, htrim⟩⟩ := hfrom line hline
    · exact tidy_of_mem_arranged hl
    · exact tidy_of_other (htrim ▸ hother)

end ImportLine

end FormatterModules.Engine
