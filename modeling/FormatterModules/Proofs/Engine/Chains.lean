import FormatterModules.Proofs.Engine.Indent.Margins
import FormatterModules.Proofs.Engine.Whitespace
import FormatterModules.Proofs.Text.Endings

namespace FormatterModules.Engine

open Text

/-- Runs engines one after another and stops at the first that does not format. -/
def runAll : List Engine → Engine
  | [], text => .ok text
  | engine :: rest, text =>
    match engine text with
    | .ok formatted => runAll rest formatted
    | .failed e => .failed e
    | .panicked => .panicked

/-- Applies functions one after another. -/
def applyAll (formats : List (List Char → List Char)) (text : List Char) : List Char :=
  formats.foldl (fun text format => format text) text

/-- Functions that can change places, and of which each does all it does at once. -/
structure Independent (formats : List (List Char → List Char)) : Prop where
  comm : ∀ f ∈ formats, ∀ g ∈ formats, ∀ text, f (g text) = g (f text)
  idem : ∀ f ∈ formats, ∀ text, f (f text) = f text

namespace Independent

variable {formats chain other : List (List Char → List Char)} {f : List Char → List Char}

theorem apply_applyAll (h : Independent formats) (hf : f ∈ formats) (hchain : chain ⊆ formats)
    (text : List Char) : f (applyAll chain text) = applyAll chain (f text) := by
  induction chain generalizing text with
  | nil => rfl
  | cons g chain ih =>
    obtain ⟨hg, hrest⟩ := List.cons_subset.mp hchain
    have hnext : f (applyAll chain (g text)) = applyAll chain (f (g text)) := ih hrest (g text)
    rw [h.comm f hf g hg] at hnext
    exact hnext

theorem apply_applyAll_of_mem (h : Independent formats) (hchain : chain ⊆ formats) (hf : f ∈ chain)
    (text : List Char) : f (applyAll chain text) = applyAll chain text := by
  induction chain generalizing text with
  | nil => cases hf
  | cons g chain ih =>
    obtain ⟨hg, hrest⟩ := List.cons_subset.mp hchain
    obtain rfl | hf := List.mem_cons.mp hf
    · have hnext := h.apply_applyAll hg hrest (f text)
      rw [h.idem f hg] at hnext
      exact hnext
    · exact ih hrest hf (g text)

theorem applyAll_applyAll (h : Independent formats) (hother : other ⊆ formats)
    (hsub : chain ⊆ other) (text : List Char) :
    applyAll chain (applyAll other text) = applyAll other text := by
  induction chain with
  | nil => rfl
  | cons f chain ih =>
    obtain ⟨hf, hrest⟩ := List.cons_subset.mp hsub
    have hsame := h.apply_applyAll_of_mem hother hf text
    change applyAll chain (f (applyAll other text)) = _
    rw [hsame, ih hrest]

theorem applyAll_comm (h : Independent formats) (hchain : chain ⊆ formats) (hother : other ⊆ formats)
    (text : List Char) :
    applyAll chain (applyAll other text) = applyAll other (applyAll chain text) := by
  induction chain generalizing text with
  | nil => rfl
  | cons f chain ih =>
    obtain ⟨hf, hrest⟩ := List.cons_subset.mp hchain
    change applyAll chain (f (applyAll other text)) = applyAll other (applyAll chain (f text))
    rw [h.apply_applyAll hf hother, ih hrest]

theorem applyAll_eq (h : Independent formats) (hchain : chain ⊆ formats)
    (hsame : ∀ f, f ∈ chain ↔ f ∈ other) (text : List Char) :
    applyAll chain text = applyAll other text := by
  have hother : other ⊆ formats := fun f hf => hchain ((hsame f).mpr hf)
  calc applyAll chain text
      = applyAll other (applyAll chain text) :=
        (h.applyAll_applyAll hchain (fun f hf => (hsame f).mpr hf) text).symm
    _ = applyAll chain (applyAll other text) := h.applyAll_comm hother hchain text
    _ = applyAll other text := h.applyAll_applyAll hother (fun f hf => (hsame f).mp hf) text

end Independent

theorem runAll_eq_applyAll {chain : List Engine} {format : Engine → List Char → List Char}
    {inv : List Char → Prop} {text : List Char}
    (hstable : ∀ e ∈ chain, ∀ text, inv text → inv (format e text))
    (hperforms : ∀ e ∈ chain, ∀ text, inv text →
      e (String.ofList text) = .ok (String.ofList (format e text))) (htext : inv text) :
    runAll chain (String.ofList text) = .ok (String.ofList (applyAll (chain.map format) text)) := by
  induction chain generalizing text with
  | nil => rfl
  | cons e chain ih =>
    obtain ⟨hnext, hrest⟩ := List.forall_mem_cons.mp hstable
    obtain ⟨hfirst, hothers⟩ := List.forall_mem_cons.mp hperforms
    rw [runAll, hfirst text htext]
    exact ih hrest hothers (hnext text htext)

/-- On some texts, which the functions do not lead away from, the engines do what the functions do. -/
structure Carried (engines : List Engine) (formats : List (List Char → List Char))
    (inv : List Char → Prop) : Prop where
  stable : ∀ f ∈ formats, ∀ text, inv text → inv (f text)
  performed : ∀ e ∈ engines, ∃ f ∈ formats, ∀ text, inv text →
    e (String.ofList text) = .ok (String.ofList (f text))

namespace Carried

variable {engines chain other : List Engine} {formats fs : List (List Char → List Char)}
  {inv : List Char → Prop} {text : List Char}

theorem applyAll (h : Carried engines formats inv) (hfs : fs ⊆ formats) (htext : inv text) :
    inv (applyAll fs text) := by
  induction fs generalizing text with
  | nil => exact htext
  | cons f fs ih =>
    obtain ⟨hf, hrest⟩ := List.cons_subset.mp hfs
    exact ih hrest (h.stable f hf text htext)

theorem runAll_eq (h : Carried engines formats inv) (hformats : Independent formats)
    (hchain : chain ⊆ engines) (hsame : ∀ e, e ∈ chain ↔ e ∈ other) (htext : inv text) :
    ∃ output, runAll chain (String.ofList text) = .ok output ∧
      runAll other (String.ofList text) = .ok output ∧ ∀ e ∈ chain, e output = .ok output := by
  choose! format hformat hperforms using h.performed
  have hsub : ∀ es ⊆ engines, es.map format ⊆ formats := by
    intro es hes f hf
    obtain ⟨e, he, rfl⟩ := List.mem_map.mp hf
    exact hformat e (hes he)
  have hrun : ∀ es ⊆ engines,
      runAll es (String.ofList text) = .ok (String.ofList (Engine.applyAll (es.map format) text)) :=
    fun es hes => runAll_eq_applyAll (fun e he => h.stable _ (hformat e (hes he)))
      (fun e he => hperforms e (hes he)) htext
  have hother : other ⊆ engines := fun e he => hchain ((hsame e).mpr he)
  have hmembers : ∀ f, f ∈ chain.map format ↔ f ∈ other.map format := fun f => by
    simp [hsame]
  refine ⟨_, hrun chain hchain, ?_, fun e he => ?_⟩
  · rw [hrun other hother, hformats.applyAll_eq (hsub chain hchain) hmembers]
  · rw [hperforms e (hchain he) _ (h.applyAll (hsub chain hchain) htext),
      hformats.apply_applyAll_of_mem (hsub chain hchain) (List.mem_map_of_mem he)]

end Carried

theorem endLine_of_blank {text : List Char} (h : trimEnd text = []) : endLine text = [] := by
  rw [endLine, h]

theorem endLine_of_ne_nil {text : List Char} (h : trimEnd text ≠ []) :
    endLine text = trimEnd text ++ ['\n'] := by
  unfold endLine
  split
  · next hnil => exact absurd hnil h
  · rfl

theorem endLine_endLine (text : List Char) : endLine (endLine text) = endLine text := by
  by_cases h : trimEnd text = []
  · rw [endLine_of_blank h]
    rfl
  · have hagain : trimEnd (trimEnd text ++ ['\n']) = trimEnd text := by
      rw [trimEnd_concat_blank (by decide), trimEnd_trimEnd]
    rw [endLine_of_ne_nil h, endLine_of_ne_nil (by rwa [hagain]), hagain]

theorem endLine_mapContents {f : List Char → List Char} (h : KeepsEnd f) (text : List Char) :
    endLine (mapContents f text) = mapContents f (endLine text) := by
  have htrimmed := trimEnd_trimEnd text
  by_cases hblank : trimEnd text = []
  · have hchanged : trimEnd (mapContents f text) = [] := by
      rw [h.trimEnd_mapContents, hblank]
      rfl
    rw [endLine_of_blank hblank, endLine_of_blank hchanged]
    rfl
  · have hchanged : trimEnd (mapContents f text) ≠ [] := by
      rw [h.trimEnd_mapContents]
      exact (h.mapContents_trimmed htrimmed hblank).2
    rw [endLine_of_ne_nil hblank, endLine_of_ne_nil hchanged, h.trimEnd_mapContents,
      h.mapContents_concat_lf htrimmed hblank]

theorem keepsEnd_trimEnd : KeepsEnd trimEnd :=
  ⟨fun _ => rfl, fun s => by rw [trimEnd_trimEnd]⟩

namespace Indentation

variable {i : Indentation} {content : List Char}

theorem isBlank_of_isMargin {c : Char} (h : isMargin c = true) : isBlank c = true := by
  obtain rfl | rfl := isMargin_iff.mp h <;> decide

theorem trimEnd_eq_leading_append (h : trimEnd (body content) ≠ []) :
    trimEnd content = leading content ++ trimEnd (body content) := by
  conv_lhs => rw [← leading_append_body content]
  exact trimEnd_append_of_ne_nil h (leading content)

theorem trimEnd_eq_nil_iff_body : trimEnd content = [] ↔ trimEnd (body content) = [] := by
  constructor
  · intro h
    by_contra hbody
    rw [trimEnd_eq_leading_append hbody] at h
    exact hbody (List.append_eq_nil_iff.mp h).2
  · intro h
    rw [trimEnd_eq_nil_iff] at h ⊢
    intro c hc
    rw [← leading_append_body content] at hc
    obtain hc | hc := List.mem_append.mp hc
    · exact isBlank_of_isMargin (isMargin_of_mem_leading hc)
    · exact h c hc

theorem body_trimEnd_body (content : List Char) :
    body (trimEnd (body content)) = trimEnd (body content) := by
  obtain ⟨rest, hrest⟩ := trimEnd_prefix_self (body content)
  cases hd : trimEnd (body content) with
  | nil => rfl
  | cons c d =>
    have hhead := List.head?_dropWhile_not isMargin content
    rw [hd] at hrest
    rw [show content.dropWhile isMargin = _ from hrest.symm] at hhead
    exact List.dropWhile_cons_of_neg (ne_true_of_eq_false hhead)

theorem width_congr {size : Nat} {s t : List Char} (h : leading s = leading t) :
    width size s = width size t := by
  rw [width, width, h]

theorem keepsEnd_realign (i : Indentation) : KeepsEnd i.realign where
  trimEnd_apply s := by
    by_cases hbody : trimEnd (body s) = []
    · have hchanged : trimEnd (i.realign s) = [] := by
        rwa [trimEnd_eq_nil_iff_body, body_realign]
      rw [hchanged, trimEnd_eq_nil_iff_body.mpr hbody, realign_nil]
    · have hmargin : ∀ c ∈ leading s, isMargin c = true := fun _ => isMargin_of_mem_leading
      have hchanged : trimEnd (body (i.realign s)) ≠ [] := by rwa [body_realign]
      have hkept : trimEnd s = leading s ++ body (trimEnd (body s)) := by
        rw [trimEnd_eq_leading_append hbody, body_trimEnd_body]
      have hleading : leading (trimEnd s) = leading s := by
        rw [hkept, leading_append hmargin]
      have hrest : body (trimEnd s) = trimEnd (body s) := by
        rw [hkept, body_append hmargin, body_trimEnd_body]
      rw [trimEnd_eq_leading_append hchanged, leading_realign, body_realign,
        realign_eq i (trimEnd s), width_congr hleading, hrest]
  eq_nil_iff s := by
    rw [trimEnd_eq_nil_iff_body, body_realign, ← trimEnd_eq_nil_iff_body]

end Indentation

theorem stripLines_format (i : Indentation) (text : List Char) :
    stripLines (i.format text) = i.format (stripLines text) := by
  have hline : trimEnd ∘ i.realign = i.realign ∘ trimEnd :=
    funext (Indentation.keepsEnd_realign i).trimEnd_apply
  rw [Indentation.format, stripLines,
    mapContents_mapContents (Indentation.isWhole_realigned i text) rfl, hline, Indentation.format,
    stripLines, mapContents_mapContents isWhole_stripped i.realign_nil]

def blankFormats (i : Indentation) : List (List Char → List Char) := [stripLines, endLine, i.format]

theorem independent_blankFormats (i : Indentation) : Independent (blankFormats i) where
  comm f hf g hg text := by
    have hstrip : endLine (stripLines text) = stripLines (endLine text) :=
      endLine_mapContents keepsEnd_trimEnd text
    have hmargin : endLine (i.format text) = i.format (endLine text) :=
      endLine_mapContents (Indentation.keepsEnd_realign i) text
    have hboth := stripLines_format i text
    simp only [blankFormats, List.mem_cons, List.not_mem_nil, or_false] at hf hg
    obtain rfl | rfl | rfl := hf <;> obtain rfl | rfl | rfl := hg
    · rfl
    · exact hstrip.symm
    · exact hboth
    · exact hstrip
    · rfl
    · exact hmargin
    · exact hboth.symm
    · exact hmargin.symm
    · rfl
  idem f hf text := by
    simp only [blankFormats, List.mem_cons, List.not_mem_nil, or_false] at hf
    obtain rfl | rfl | rfl := hf
    · exact stripLines_stripLines text
    · exact endLine_endLine text
    · exact Indentation.format_format rfl text

end FormatterModules.Engine
