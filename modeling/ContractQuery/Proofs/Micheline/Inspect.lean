import ContractQuery.Micheline.Expr
import ContractQuery.Proofs.Text.Quoted

/-!
# Trees shown in full

A message that shows an element shows all of it, and no two elements are shown alike.

* `Shows`: how a tree is shown, kind by kind. `shows_iff`: `Expr.inspect` shows it so.
* `Expr.opening`, `Expr.inside`: the word that a kind begins with, and what comes after it. No word
  begins another one, so the word tells the kind (`opening_append_inj`).
* `bracketed_append_inj`: texts in brackets are told if each of them is.
* **`inspect_append_inj`**: a tree is told by its text, whatever follows. **`Shows.unique`**: so whoever
  reads a text that shows a tree knows the tree.
-/

namespace ContractQuery

namespace Micheline

open Micheline.Expr (bracketed inspectAll)

/-! ## 1. How a tree is shown -/

mutual

/-- The text shows the expression: its kind, the texts in it quoted, and what it is made of in order. -/
inductive Shows : Expr → String → Prop
  | invalid : Shows .invalid "Invalid"
  | int (text : String) : Shows (.int text) ("Int(" ++ Quoted.render text ++ ")")
  | string (text : String) : Shows (.string text) ("String(" ++ Quoted.render text ++ ")")
  | bytes (hex : String) : Shows (.bytes hex) ("Bytes(" ++ Quoted.render hex ++ ")")
  | seq {items : List Expr} {texts : List String} (h : ShowsAll items texts) :
    Shows (.seq items) ("Seq(" ++ ("[" ++ ", ".intercalate texts ++ "]") ++ ")")
  | app (name : String) {args : List Expr} {texts : List String} (annots : List String)
    (h : ShowsAll args texts) : Shows (.app name args annots)
      ("App \x7b prim: " ++ Quoted.render name ++
        ", args: " ++ ("[" ++ ", ".intercalate texts ++ "]") ++
        ", annots: " ++ ("[" ++ ", ".intercalate (annots.map Quoted.render) ++ "]") ++ " \x7d")

/-- The texts show the expressions, one by one. -/
inductive ShowsAll : List Expr → List String → Prop
  | nil : ShowsAll [] []
  | cons {e : Expr} {text : String} {es : List Expr} {texts : List String} (h : Shows e text)
    (hs : ShowsAll es texts) : ShowsAll (e :: es) (text :: texts)

end

mutual

theorem shows_inspect : ∀ e : Expr, Shows e e.inspect
  | .invalid => .invalid
  | .int text => .int text
  | .string text => .string text
  | .bytes hex => .bytes hex
  | .seq items => .seq (showsAll_inspectAll items)
  | .app name args annots => .app name annots (showsAll_inspectAll args)

theorem showsAll_inspectAll : ∀ es : List Expr, ShowsAll es (inspectAll es)
  | [] => .nil
  | e :: rest => .cons (shows_inspect e) (showsAll_inspectAll rest)

end

mutual

/-- An expression is shown in one way only. -/
theorem Shows.text_unique : ∀ {e : Expr} {text text' : String}, Shows e text → Shows e text' →
    text = text'
  | _, _, _, .invalid, h' => by
    cases h'
    rfl
  | _, _, _, .int _, h' => by
    cases h'
    rfl
  | _, _, _, .string _, h' => by
    cases h'
    rfl
  | _, _, _, .bytes _, h' => by
    cases h'
    rfl
  | _, _, _, .seq h, h' => by
    cases h' with
    | seq h' => rw [h.texts_unique h']
  | _, _, _, .app _ _ h, h' => by
    cases h' with
    | app _ _ h' => rw [h.texts_unique h']

theorem ShowsAll.texts_unique : ∀ {es : List Expr} {texts texts' : List String}, ShowsAll es texts →
    ShowsAll es texts' → texts = texts'
  | _, _, _, .nil, h' => by
    cases h'
    rfl
  | _, _, _, .cons h hs, h' => by
    cases h' with
    | cons h' hs' => rw [h.text_unique h', hs.texts_unique hs']

end

theorem shows_iff {e : Expr} {text : String} : Shows e text ↔ text = e.inspect := by
  constructor
  · intro h
    exact h.text_unique (shows_inspect e)
  · intro h
    rw [h]
    exact shows_inspect e

/-! ## 2. The words that trees begin with -/

/-- The word that the text of an expression begins with. -/
def Expr.opening : Expr → String
  | .invalid => "Invalid"
  | .int _ => "Int("
  | .string _ => "String("
  | .bytes _ => "Bytes("
  | .seq _ => "Seq("
  | .app .. => "App \x7b prim: "

/-- What comes after the word. -/
def Expr.inside : Expr → String
  | .invalid => ""
  | .int text => Quoted.render text ++ ")"
  | .string text => Quoted.render text ++ ")"
  | .bytes hex => Quoted.render hex ++ ")"
  | .seq items => bracketed (items.map inspect) ++ ")"
  | .app name args annots => Quoted.render name ++ (", args: " ++ (bracketed (args.map inspect) ++
      (", annots: " ++ (bracketed (annots.map Quoted.render) ++ " \x7d"))))

theorem inspectAll_eq (es : List Expr) : inspectAll es = es.map Expr.inspect := by
  induction es with
  | nil => rfl
  | cons e rest ih => exact congrArg (e.inspect :: ·) ih

theorem Expr.inspect_eq (e : Expr) : e.inspect = e.opening ++ e.inside := by
  cases e with
  | invalid => rfl
  | int => exact String.append_assoc
  | string => exact String.append_assoc
  | bytes => exact String.append_assoc
  | seq items =>
    show "Seq(" ++ bracketed (inspectAll items) ++ ")" = _
    rw [inspectAll_eq]
    exact String.append_assoc
  | app name args annots =>
    show "App \x7b prim: " ++ Quoted.render name ++ ", args: " ++ bracketed (inspectAll args) ++
      ", annots: " ++ bracketed (annots.map Quoted.render) ++ " \x7d" = _
    rw [inspectAll_eq]
    simp only [opening, inside, String.append_assoc]

/-- The words, and what may come after a text in brackets. -/
def words : List String :=
  ["Invalid", "Int(", "String(", "Bytes(", "Seq(", "App \x7b prim: ", "]", ", "]

theorem words_prefix_free : ∀ w ∈ words, ∀ w' ∈ words, w.toList <+: w'.toList → w = w' := by
  decide +kernel

/-- **No word begins another one.** -/
theorem word_append_inj {w w' front back : String} (hw : w ∈ words) (hw' : w' ∈ words)
    (h : w ++ front = w' ++ back) : w = w' ∧ front = back := by
  have hchars := congrArg String.toList h
  rw [String.toList_append, String.toList_append] at hchars
  have hsame : w = w' := by
    rcases List.prefix_or_prefix_of_prefix (List.prefix_append w.toList front.toList)
      (hchars ▸ List.prefix_append w'.toList back.toList) with hle | hle
    · exact words_prefix_free w hw w' hw' hle
    · exact (words_prefix_free w' hw' w hw hle).symm
  rw [hsame, String.append_right_inj] at h
  exact ⟨hsame, h⟩

theorem Expr.opening_mem (e : Expr) : e.opening ∈ words := by
  cases e <;> simp [opening, words]

theorem opening_append_inj {e e' : Expr} {front back : String}
    (h : e.inspect ++ front = e'.inspect ++ back) :
    e.opening = e'.opening ∧ e.inside ++ front = e'.inside ++ back := by
  rw [e.inspect_eq, e'.inspect_eq, String.append_assoc, String.append_assoc] at h
  exact word_append_inj e.opening_mem e'.opening_mem h

/-! ## 3. Texts in brackets -/

section Bracketed

variable {α : Type} {f : α → String}

/-- What is written of an item tells it, and where what follows begins. -/
def Tells (f : α → String) (a : α) : Prop :=
  ∀ {b : α} {front back : String}, f a ++ front = f b ++ back → a = b ∧ front = back

/-- What is written of an item is never taken for the bracket at the end. -/
def NeverCloses (f : α → String) : Prop :=
  ∀ {a : α} {front back : String}, "]" ++ front ≠ f a ++ back

/-- What comes after an item: nothing, or a comma and the other items. -/
def following : List String → String
  | [] => ""
  | text :: texts => ", " ++ ", ".intercalate (text :: texts)

theorem intercalate_cons (text : String) (texts : List String) :
    ", ".intercalate (text :: texts) = text ++ following texts := by
  cases texts with
  | nil => rw [String.intercalate_singleton, following, String.append_empty]
  | cons next rest => rw [String.intercalate_cons_cons, following, String.append_assoc]

/-- **Items up to the bracket are told if each of them is.** -/
theorem items_append_inj (hcloses : NeverCloses f) : ∀ {as bs : List α} {front back : String},
    (∀ a ∈ as, Tells f a) →
    ", ".intercalate (as.map f) ++ ("]" ++ front) = ", ".intercalate (bs.map f) ++ ("]" ++ back) →
    as = bs ∧ front = back
  | [], [], front, back, _, h => by
    rw [String.append_right_inj, String.append_right_inj] at h
    exact ⟨rfl, h⟩
  | [], b :: bs, front, back, _, h => by
    rw [List.map_nil, String.intercalate_nil, String.empty_append, List.map_cons, intercalate_cons,
      String.append_assoc] at h
    exact absurd h hcloses
  | a :: as, [], front, back, _, h => by
    rw [List.map_nil, String.intercalate_nil, String.empty_append, List.map_cons, intercalate_cons,
      String.append_assoc] at h
    exact absurd h.symm hcloses
  | a :: as, b :: bs, front, back, htells, h => by
    obtain ⟨ha, has⟩ := List.forall_mem_cons.mp htells
    rw [List.map_cons, List.map_cons, intercalate_cons, intercalate_cons, String.append_assoc,
      String.append_assoc] at h
    obtain ⟨rfl, hrest⟩ := ha h
    have hcomma : ∀ {x y : String}, "]" ++ x ≠ ", " ++ y := fun hxy =>
      absurd (word_append_inj (by decide) (by decide) hxy).1 (by decide)
    -- after an item there is the bracket, or a comma and the next item
    cases as with
    | nil =>
      cases bs with
      | nil =>
        simp only [List.map_nil, following, String.append_right_inj] at hrest
        exact ⟨rfl, hrest⟩
      | cons b bs =>
        simp only [List.map_nil, List.map_cons, following, String.empty_append,
          String.append_assoc] at hrest
        exact absurd hrest hcomma
    | cons a as =>
      cases bs with
      | nil =>
        simp only [List.map_nil, List.map_cons, following, String.empty_append,
          String.append_assoc] at hrest
        exact absurd hrest.symm hcomma
      | cons b bs =>
        simp only [List.map_cons, following, String.append_assoc, String.append_right_inj] at hrest
        have hitems : ", ".intercalate ((a :: as).map f) ++ ("]" ++ front) =
            ", ".intercalate ((b :: bs).map f) ++ ("]" ++ back) := hrest
        obtain ⟨htail, hback⟩ := items_append_inj hcloses has hitems
        exact ⟨by rw [htail], hback⟩

theorem bracketed_append_inj (hcloses : NeverCloses f) {as bs : List α} {front back : String}
    (htells : ∀ a ∈ as, Tells f a)
    (h : bracketed (as.map f) ++ front = bracketed (bs.map f) ++ back) : as = bs ∧ front = back := by
  simp only [bracketed, String.append_assoc, String.append_right_inj] at h
  exact items_append_inj hcloses htells h

end Bracketed

/-! ## 4. Trees are told by their texts -/

theorem neverCloses_render : NeverCloses Quoted.render := by
  intro text front back h
  have hchars := congrArg String.toList h
  rw [String.toList_append, String.toList_append, Quoted.toList_render] at hchars
  exact absurd (List.cons.inj hchars).1 (by decide)

theorem neverCloses_inspect : NeverCloses Expr.inspect := by
  intro e front back h
  rw [e.inspect_eq, String.append_assoc] at h
  have hword := (word_append_inj (by decide) e.opening_mem h).1
  cases e <;> simp [Expr.opening] at hword

theorem quoted_append_inj {s t front back : String}
    (h : Quoted.render s ++ ")" ++ front = Quoted.render t ++ ")" ++ back) : s = t ∧ front = back := by
  rw [String.append_assoc, String.append_assoc] at h
  obtain ⟨htext, hrest⟩ := Quoted.render_append_inj h
  exact ⟨htext, (String.append_right_inj _).mp hrest⟩

mutual

/-- **A tree is told by its text, whatever follows.** -/
theorem inspect_append_inj : ∀ e : Expr, Tells Expr.inspect e
  | .invalid, e', front, back, h => by
    obtain ⟨hword, hinside⟩ := opening_append_inj h
    cases e' with
    | invalid => exact ⟨rfl, (String.append_right_inj _).mp hinside⟩
    | _ => simp [Expr.opening] at hword
  | .int text, e', front, back, h => by
    obtain ⟨hword, hinside⟩ := opening_append_inj h
    cases e' with
    | int text' =>
      obtain ⟨htext, hrest⟩ := quoted_append_inj hinside
      exact ⟨by rw [htext], hrest⟩
    | _ => simp [Expr.opening] at hword
  | .string text, e', front, back, h => by
    obtain ⟨hword, hinside⟩ := opening_append_inj h
    cases e' with
    | string text' =>
      obtain ⟨htext, hrest⟩ := quoted_append_inj hinside
      exact ⟨by rw [htext], hrest⟩
    | _ => simp [Expr.opening] at hword
  | .bytes hex, e', front, back, h => by
    obtain ⟨hword, hinside⟩ := opening_append_inj h
    cases e' with
    | bytes hex' =>
      obtain ⟨htext, hrest⟩ := quoted_append_inj hinside
      exact ⟨by rw [htext], hrest⟩
    | _ => simp [Expr.opening] at hword
  | .seq items, e', front, back, h => by
    obtain ⟨hword, hinside⟩ := opening_append_inj h
    cases e' with
    | seq items' =>
      simp only [Expr.inside, String.append_assoc] at hinside
      obtain ⟨hitems, hrest⟩ :=
        bracketed_append_inj neverCloses_inspect (inspectAll_append_inj items) hinside
      exact ⟨by rw [hitems], (String.append_right_inj _).mp hrest⟩
    | _ => simp [Expr.opening] at hword
  | .app name args annots, e', front, back, h => by
    obtain ⟨hword, hinside⟩ := opening_append_inj h
    cases e' with
    | app name' args' annots' =>
      simp only [Expr.inside, String.append_assoc] at hinside
      obtain ⟨hname, hrest⟩ := Quoted.render_append_inj hinside
      obtain ⟨hargs, hrest⟩ := bracketed_append_inj neverCloses_inspect (inspectAll_append_inj args)
        ((String.append_right_inj _).mp hrest)
      obtain ⟨hannots, hrest⟩ := bracketed_append_inj neverCloses_render
        (fun _ _ _ _ _ => Quoted.render_append_inj) ((String.append_right_inj _).mp hrest)
      exact ⟨by rw [hname, hargs, hannots], (String.append_right_inj _).mp hrest⟩
    | _ => simp [Expr.opening] at hword

theorem inspectAll_append_inj : ∀ es : List Expr, ∀ e ∈ es, Tells Expr.inspect e
  | [] => by simp
  | e :: rest => List.forall_mem_cons.mpr ⟨inspect_append_inj e, inspectAll_append_inj rest⟩

end

/-- **No two trees are shown alike.** -/
theorem Shows.unique {e e' : Expr} {text : String} (h : Shows e text) (h' : Shows e' text) :
    e = e' := by
  have hsame : e.inspect = e'.inspect := (shows_iff.mp h).symm.trans (shows_iff.mp h')
  exact (inspect_append_inj e (congrArg (· ++ "") hsame)).1

end Micheline

end ContractQuery
