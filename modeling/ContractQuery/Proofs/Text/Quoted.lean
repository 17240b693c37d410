import ContractQuery.Text.Quoted
import Mathlib.Data.List.Basic

/-!
# A quotation tells the text

Two texts never have the same quotation, so a message shows exactly what it complains about. Nor can a
quotation go on where another one has its end, so what follows a quotation is told too.

* `Escapes`: the three ways in which a character is written; a backslash begins two of them, and the
  character after it tells which.
* **`Escapes.append_inj`**: what is written for a character tells it, whatever follows.
* **`render_append_inj`**, `render_inj`: whole texts.
-/

namespace ContractQuery

namespace Quoted

/-! ## 1. Hexadecimal digits -/

theorem digitChar_inj : ∀ m < 16, ∀ n < 16, Nat.digitChar m = Nat.digitChar n → m = n := by decide

theorem digitChar_ne_brace : ∀ n < 16, Nat.digitChar n ≠ '}' := by decide

/-- The digits of a number do not end what is between the braces. -/
theorem brace_not_mem_toDigits (n : Nat) : '}' ∉ Nat.toDigits 16 n := by
  induction n using Nat.strongRecOn with
  | ind n ih =>
    intro h
    by_cases hlt : n < 16
    · rw [Nat.toDigits_of_lt_base hlt] at h
      exact digitChar_ne_brace n hlt (List.mem_singleton.mp h).symm
    · rw [Nat.toDigits_of_base_le (by decide) (by omega)] at h
      rcases List.mem_append.mp h with h | h
      · exact ih (n / 16) (by omega) h
      · exact digitChar_ne_brace (n % 16) (by omega) (List.mem_singleton.mp h).symm

/-- A number is told by its digits. -/
theorem toDigits_inj : ∀ {m n : Nat}, Nat.toDigits 16 m = Nat.toDigits 16 n → m = n := by
  intro m
  induction m using Nat.strongRecOn with
  | ind m ih =>
    intro n h
    have hfirst : ∀ k, 0 < (Nat.toDigits 16 k).length := fun k =>
      List.length_pos_iff.mpr Nat.toDigits_ne_nil
    by_cases hm : m < 16
    · rw [Nat.toDigits_of_lt_base hm] at h
      by_cases hn : n < 16
      · rw [Nat.toDigits_of_lt_base hn] at h
        exact digitChar_inj m hm n hn (List.cons.inj h).1
      · rw [Nat.toDigits_of_base_le (by decide) (by omega)] at h
        have hlength := congrArg List.length h
        have hpos := hfirst (n / 16)
        simp only [List.length_append, List.length_singleton] at hlength
        omega
    · rw [Nat.toDigits_of_base_le (by decide) (by omega : 16 ≤ m)] at h
      by_cases hn : n < 16
      · rw [Nat.toDigits_of_lt_base hn] at h
        have hlength := congrArg List.length h
        have hpos := hfirst (m / 16)
        simp only [List.length_append, List.length_singleton] at hlength
        omega
      · rw [Nat.toDigits_of_base_le (by decide) (by omega : 16 ≤ n)] at h
        obtain ⟨hfront, hlast⟩ := List.append_inj' h rfl
        have hquot : m / 16 = n / 16 := ih (m / 16) (by omega) hfront
        have hrem : m % 16 = n % 16 :=
          digitChar_inj _ (by omega) _ (by omega) (List.cons.inj hlast).1
        omega

/-! ## 2. Characters -/

/-- The characters with a mark of their own after the backslash. -/
def marks : List (Char × Char) :=
  [('0', '\x00'), ('t', '\t'), ('n', '\n'), ('r', '\r'), ('"', '"'), ('\\', '\\')]

theorem marks_inj : ∀ a ∈ marks, ∀ b ∈ marks, a.1 = b.1 → a = b := by decide

theorem mark_ne_u : ∀ a ∈ marks, a.1 ≠ 'u' := by decide

/-- How a character may be written. -/
inductive Escapes (c : Char) : List Char → Prop
  | itself (hback : c ≠ '\\') (hquote : c ≠ '"') : Escapes c [c]
  | mark {m : Char} (h : (m, c) ∈ marks) : Escapes c ['\\', m]
  | codePoint : Escapes c ('\\' :: 'u' :: '{' :: (Nat.toDigits 16 c.toNat ++ ['}']))

theorem escapes (c : Char) : Escapes c (escape c) := by
  unfold escape
  split_ifs with hzero htab hfeed hreturn hquote hbackslash hshape
  · exact .mark (by rw [hzero]; decide)
  · exact .mark (by rw [htab]; decide)
  · exact .mark (by rw [hfeed]; decide)
  · exact .mark (by rw [hreturn]; decide)
  · exact .mark (by rw [hquote]; decide)
  · exact .mark (by rw [hbackslash]; decide)
  · exact .codePoint
  · exact .itself hbackslash hquote

/-- What ends at the first brace is told by what it is part of. -/
theorem append_brace_inj : ∀ {xs ys front back : List Char}, '}' ∉ xs → '}' ∉ ys →
    xs ++ '}' :: front = ys ++ '}' :: back → xs = ys ∧ front = back
  | [], [], _, _, _, _, h => ⟨rfl, (List.cons.inj h).2⟩
  | [], y :: ys, _, _, _, hys, h => by
    obtain ⟨hfirst, -⟩ := List.cons.inj h
    exact absurd (hfirst ▸ List.mem_cons_self) hys
  | x :: xs, [], _, _, hxs, _, h => by
    obtain ⟨hfirst, -⟩ := List.cons.inj h
    exact absurd (hfirst ▸ List.mem_cons_self) hxs
  | x :: xs, y :: ys, _, _, hxs, hys, h => by
    obtain ⟨hfirst, hrest⟩ := List.cons.inj h
    obtain ⟨htail, hback⟩ := append_brace_inj (fun hmem => hxs (List.mem_cons_of_mem _ hmem))
      (fun hmem => hys (List.mem_cons_of_mem _ hmem)) hrest
    exact ⟨by rw [hfirst, htail], hback⟩

/-- **What is written for a character tells it, and where what follows begins.** -/
theorem Escapes.append_inj {c d : Char} {xs ys front back : List Char} (hc : Escapes c xs)
    (hd : Escapes d ys) (h : xs ++ front = ys ++ back) : c = d ∧ front = back := by
  cases hc with
  | itself hc _ =>
    cases hd with
    | itself => exact List.cons.inj h
    | mark => exact absurd (List.cons.inj h).1 hc
    | codePoint => exact absurd (List.cons.inj h).1 hc
  | @mark m hm =>
    cases hd with
    | itself hd _ => exact absurd (List.cons.inj h).1.symm hd
    | @mark n hn =>
      obtain ⟨hmark, hrest⟩ := List.cons.inj (List.cons.inj h).2
      have hsame := marks_inj (m, c) hm (n, d) hn hmark
      exact ⟨congrArg Prod.snd hsame, hrest⟩
    | codePoint => exact absurd (List.cons.inj (List.cons.inj h).2).1 (mark_ne_u _ hm)
  | codePoint =>
    cases hd with
    | itself hd _ => exact absurd (List.cons.inj h).1.symm hd
    | mark hn => exact absurd (List.cons.inj (List.cons.inj h).2).1.symm (mark_ne_u _ hn)
    | codePoint =>
      have hinside : Nat.toDigits 16 c.toNat ++ '}' :: front =
          Nat.toDigits 16 d.toNat ++ '}' :: back := by simpa using h
      obtain ⟨hdigits, hrest⟩ := append_brace_inj (brace_not_mem_toDigits _) (brace_not_mem_toDigits _)
        hinside
      exact ⟨Char.toNat_inj.mp (toDigits_inj hdigits), hrest⟩

/-- No character is written with a quote first. -/
theorem Escapes.not_quote {c : Char} {xs front back : List Char} (h : Escapes c xs) :
    '"' :: front ≠ xs ++ back := by
  intro heq
  cases h with
  | itself _ hquote => exact hquote (List.cons.inj heq).1.symm
  | mark => exact absurd (List.cons.inj heq).1 (by decide)
  | codePoint => exact absurd (List.cons.inj heq).1 (by decide)

/-! ## 3. Texts -/

/-- Up to the quote at its end the inside of a quotation tells the characters. -/
theorem flatMap_escape_append_inj : ∀ {cs ds front back : List Char},
    cs.flatMap escape ++ '"' :: front = ds.flatMap escape ++ '"' :: back → cs = ds ∧ front = back
  | [], [], _, _, h => ⟨rfl, (List.cons.inj h).2⟩
  | [], d :: ds, _, _, h => by
    rw [List.flatMap_nil, List.flatMap_cons, List.append_assoc] at h
    exact absurd h (escapes d).not_quote
  | c :: cs, [], _, _, h => by
    rw [List.flatMap_nil, List.flatMap_cons, List.append_assoc] at h
    exact absurd h.symm (escapes c).not_quote
  | c :: cs, d :: ds, _, _, h => by
    rw [List.flatMap_cons, List.flatMap_cons, List.append_assoc, List.append_assoc] at h
    obtain ⟨hfirst, hrest⟩ := (escapes c).append_inj (escapes d) h
    obtain ⟨htail, hback⟩ := flatMap_escape_append_inj hrest
    exact ⟨by rw [hfirst, htail], hback⟩

theorem toList_render (text : String) :
    (render text).toList = '"' :: (text.toList.flatMap escape ++ ['"']) := String.toList_ofList

/-- **A quotation tells the text, and where what follows begins.** -/
theorem render_append_inj {s t front back : String} (h : render s ++ front = render t ++ back) :
    s = t ∧ front = back := by
  have hchars := congrArg String.toList h
  rw [String.toList_append, String.toList_append, toList_render, toList_render] at hchars
  have hinside : s.toList.flatMap escape ++ '"' :: front.toList =
      t.toList.flatMap escape ++ '"' :: back.toList := by simpa using hchars
  obtain ⟨htext, hrest⟩ := flatMap_escape_append_inj hinside
  exact ⟨String.toList_inj.mp htext, String.toList_inj.mp hrest⟩

/-- **A text is told by its quotation.** -/
theorem render_inj {s t : String} : render s = render t ↔ s = t := by
  constructor
  · intro h
    exact (render_append_inj (congrArg (· ++ "") h)).1
  · exact congrArg render

end Quoted

end ContractQuery
