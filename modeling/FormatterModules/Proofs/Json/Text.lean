import FormatterModules.Json.Value

namespace FormatterModules.Json

open FormatterModules.Text

/-- Reads one character of a string back, escaped or not. The closing quote is none. -/
def readEscaped : List Char → Option (Char × List Char)
  | '\\' :: 'b' :: rest => some ('\x08', rest)
  | '\\' :: 'f' :: rest => some ('\x0c', rest)
  | '\\' :: 'n' :: rest => some ('\n', rest)
  | '\\' :: 'r' :: rest => some ('\r', rest)
  | '\\' :: 't' :: rest => some ('\t', rest)
  | '\\' :: 'u' :: '0' :: '0' :: a :: b :: rest =>
    (hexValue? a).bind fun x => (hexValue? b).map fun y => (Char.ofNat (16 * x + y), rest)
  | '\\' :: c :: rest => some (c, rest)
  | '"' :: _ => none
  | c :: rest => some (c, rest)
  | [] => none

theorem hexValue?_hexDigit : ∀ n < 16, hexValue? (hexDigit n) = some n := by decide

theorem readEscaped_hexadecimal {c : Char} (h : c.toNat < 0x20) (rest : List Char) :
    readEscaped (['\\', 'u', '0', '0', hexDigit (c.toNat / 16), hexDigit (c.toNat % 16)] ++ rest) =
      some (c, rest) := by
  have hhigh := hexValue?_hexDigit (c.toNat / 16) (by omega)
  have hlow := hexValue?_hexDigit (c.toNat % 16) (by omega)
  have hsum : 16 * (c.toNat / 16) + c.toNat % 16 = c.toNat := by omega
  simp [readEscaped, hhigh, hlow, hsum]

theorem readEscaped_escapeChar (c : Char) (rest : List Char) :
    readEscaped (escapeChar c ++ rest) = some (c, rest) := by
  by_cases hquote : c = '"'
  · subst c; rfl
  by_cases hslash : c = '\\'
  · subst c; rfl
  by_cases hb : c = '\x08'
  · subst c; rfl
  by_cases hf : c = '\x0c'
  · subst c; rfl
  by_cases hn : c = '\n'
  · subst c; rfl
  by_cases hr : c = '\r'
  · subst c; rfl
  by_cases ht : c = '\t'
  · subst c; rfl
  by_cases hcontrol : c.toNat < 0x20
  · have he : escapeChar c =
        ['\\', 'u', '0', '0', hexDigit (c.toNat / 16), hexDigit (c.toNat % 16)] := by
      simp [escapeChar, hquote, hslash, hb, hf, hn, hr, ht, hcontrol]
    rw [he]
    exact readEscaped_hexadecimal hcontrol rest
  · have he : escapeChar c = [c] := by
      simp [escapeChar, hquote, hslash, hb, hf, hn, hr, ht, hcontrol]
    rw [he]
    simp [readEscaped, hslash]

theorem escaped_append_inj {s t r u : List Char}
    (h : s.flatMap escapeChar ++ '"' :: r = t.flatMap escapeChar ++ '"' :: u) : s = t ∧ r = u := by
  induction s generalizing t with
  | nil =>
    cases t with
    | nil => exact ⟨rfl, (List.cons.inj h).2⟩
    | cons d t =>
      have hread := congrArg readEscaped h
      simp only [List.flatMap_cons, List.append_assoc, readEscaped_escapeChar] at hread
      cases hread
  | cons c s ih =>
    have hread := congrArg readEscaped h
    simp only [List.flatMap_cons, List.append_assoc, readEscaped_escapeChar] at hread
    cases t with
    | nil => cases hread
    | cons d t =>
      simp only [List.flatMap_cons, List.append_assoc, readEscaped_escapeChar, Option.some.injEq,
        Prod.mk.injEq] at hread
      obtain ⟨rfl, hrest⟩ := hread
      obtain ⟨rfl, rfl⟩ := ih hrest
      exact ⟨rfl, rfl⟩

theorem renderString_append_inj {s t : String} {r u : List Char}
    (h : renderString s ++ r = renderString t ++ u) : s = t ∧ r = u := by
  have h' : s.toList.flatMap escapeChar ++ '"' :: r = t.toList.flatMap escapeChar ++ '"' :: u := by
    simpa [renderString] using h
  obtain ⟨hs, hr⟩ := escaped_append_inj h'
  exact ⟨String.toList_inj.mp hs, hr⟩

/-- Texts with a comma before each, and a bracket at the end. -/
def continued {α : Type} (text : α → List Char) (close : Char) : List α → List Char
  | [] => [close]
  | x :: rest => ',' :: text x ++ continued text close rest

def enclosed {α : Type} (text : α → List Char) (close : Char) : List α → List Char
  | [] => [close]
  | x :: rest => text x ++ continued text close rest

theorem renderItems_eq (items : List Json) :
    renderItems items = enclosed renderChars ']' items := by
  induction items with
  | nil => rfl
  | cons item rest ih =>
    cases rest with
    | nil => rfl
    | cons => simp [renderItems, enclosed, continued, ih]

def memberText (m : String × Json) : List Char := renderString m.1 ++ ':' :: m.2.renderChars

theorem renderMembers_eq (members : List (String × Json)) :
    renderMembers members = enclosed memberText '\x7d' members := by
  induction members with
  | nil => rfl
  | cons m rest ih =>
    cases rest with
    | nil => simp [renderMembers, enclosed, continued, memberText]
    | cons => simp [renderMembers, enclosed, continued, memberText, ih]

section

variable {α : Type} {text : α → List Char} {close : Char} {xs ys : List α} {r s : List Char}

theorem continued_append_inj (hcomma : close ≠ ',')
    (hinj : ∀ x ∈ xs, ∀ y ∈ ys, ∀ r s, text x ++ r = text y ++ s → x = y ∧ r = s)
    (h : continued text close xs ++ r = continued text close ys ++ s) : xs = ys ∧ r = s := by
  induction xs generalizing ys with
  | nil =>
    cases ys with
    | nil => exact ⟨rfl, (List.cons.inj h).2⟩
    | cons y ys => exact absurd (List.cons.inj h).1 hcomma
  | cons x xs ih =>
    cases ys with
    | nil => exact absurd (List.cons.inj h).1.symm hcomma
    | cons y ys =>
      simp only [continued, List.cons_append, List.append_assoc, List.cons.injEq, true_and] at h
      obtain ⟨rfl, hrest⟩ := hinj x (by simp) y (by simp) _ _ h
      obtain ⟨rfl, hr⟩ := ih (fun x hx y hy => hinj x (by simp [hx]) y (by simp [hy])) hrest
      exact ⟨rfl, hr⟩

theorem enclosed_append_inj (hcomma : close ≠ ',') (hxs : ∀ x ∈ xs, ∀ r s, text x ++ r ≠ close :: s)
    (hys : ∀ y ∈ ys, ∀ r s, text y ++ r ≠ close :: s)
    (hinj : ∀ x ∈ xs, ∀ y ∈ ys, ∀ r s, text x ++ r = text y ++ s → x = y ∧ r = s)
    (h : enclosed text close xs ++ r = enclosed text close ys ++ s) : xs = ys ∧ r = s := by
  cases xs with
  | nil =>
    cases ys with
    | nil => exact ⟨rfl, (List.cons.inj h).2⟩
    | cons y ys =>
      rw [enclosed, enclosed, List.append_assoc] at h
      exact absurd h.symm (hys y (by simp) _ _)
  | cons x xs =>
    cases ys with
    | nil =>
      rw [enclosed, enclosed, List.append_assoc] at h
      exact absurd h (hxs x (by simp) _ _)
    | cons y ys =>
      rw [enclosed, enclosed, List.append_assoc, List.append_assoc] at h
      obtain ⟨rfl, hrest⟩ := hinj x (by simp) y (by simp) _ _ h
      obtain ⟨rfl, hr⟩ := continued_append_inj hcomma
        (fun x hx y hy => hinj x (by simp [hx]) y (by simp [hy])) hrest
      exact ⟨rfl, hr⟩

end

/-- The value holds no number. -/
inductive NumberFree : Json → Prop
  | null : NumberFree .null
  | boolean (b : Bool) : NumberFree (.boolean b)
  | string (s : String) : NumberFree (.string s)
  | array (items : List Json) (h : ∀ j ∈ items, NumberFree j) : NumberFree (.array items)
  | object (members : List (String × Json)) (h : ∀ m ∈ members, NumberFree m.2) :
      NumberFree (.object members)

theorem NumberFree.head_ne {j : Json} (h : NumberFree j) (r s : List Char) :
    j.renderChars ++ r ≠ ']' :: s := by
  cases h with
  | boolean b => cases b <;> simp [renderChars]
  | null | string s | array items | object members => simp [renderChars, renderString]

theorem NumberFree.renderChars_append_inj {j : Json} (hj : NumberFree j) :
    ∀ {k : Json}, NumberFree k → ∀ r s, j.renderChars ++ r = k.renderChars ++ s → j = k ∧ r = s := by
  induction hj with
  | null =>
    intro k hk r s h
    cases hk with
    | null => exact ⟨rfl, List.append_cancel_left h⟩
    | boolean b => cases b <;> simp [renderChars] at h
    | string t | array items | object members => simp [renderChars, renderString] at h
  | boolean a =>
    intro k hk r s h
    cases hk with
    | boolean b => cases a <;> cases b <;> simp_all [renderChars]
    | null | string t | array items | object members =>
      cases a <;> simp [renderChars, renderString] at h
  | string t =>
    intro k hk r s h
    cases hk with
    | string u =>
      obtain ⟨rfl, hr⟩ := renderString_append_inj (by simpa only [renderChars] using h)
      exact ⟨rfl, hr⟩
    | boolean b => cases b <;> simp [renderChars, renderString] at h
    | null | array items | object members => simp [renderChars, renderString] at h
  | array items hitems ih =>
    intro k hk r s h
    cases hk with
    | array others hothers =>
      rw [renderChars, renderChars, renderItems_eq, renderItems_eq] at h
      obtain ⟨rfl, hr⟩ := enclosed_append_inj (by decide)
        (fun x hx => (hitems x hx).head_ne) (fun y hy => (hothers y hy).head_ne)
        (fun x hx y hy => ih x hx (hothers y hy)) (List.cons.inj h).2
      exact ⟨rfl, hr⟩
    | boolean b => cases b <;> simp [renderChars] at h
    | null | string t | object members => simp [renderChars, renderString] at h
  | object members hmembers ih =>
    intro k hk r s h
    cases hk with
    | object others hothers =>
      rw [renderChars, renderChars, renderMembers_eq, renderMembers_eq] at h
      have hhead : ∀ (m : String × Json) r s, memberText m ++ r ≠ '\x7d' :: s := by
        simp [memberText, renderString]
      have hmember : ∀ x ∈ members, ∀ y ∈ others, ∀ r s,
          memberText x ++ r = memberText y ++ s → x = y ∧ r = s := by
        intro x hx y hy r s hxy
        simp only [memberText, List.append_assoc, List.cons_append] at hxy
        obtain ⟨hname, hvalue⟩ := renderString_append_inj hxy
        obtain ⟨hv, hr⟩ := ih x hx (hothers y hy) _ _ (List.cons.inj hvalue).2
        exact ⟨Prod.ext hname hv, hr⟩
      obtain ⟨rfl, hr⟩ := enclosed_append_inj (by decide) (fun x _ => hhead x)
        (fun y _ => hhead y) hmember (List.cons.inj h).2
      exact ⟨rfl, hr⟩
    | boolean b => cases b <;> simp [renderChars] at h
    | null | string t | array items => simp [renderChars, renderString] at h

theorem NumberFree.render_injective {j k : Json} (hj : NumberFree j) (hk : NumberFree k)
    (h : j.render = k.render) : j = k := by
  have hchars : j.renderChars = k.renderChars := String.ofList_injective h
  exact (hj.renderChars_append_inj hk [] [] (by rw [hchars])).1

end FormatterModules.Json
