import RuleSchema.Json.Writer
import RuleSchema.Proofs.Decimal.NumberTexts
import RuleSchema.Proofs.Json.Strings

/-!
# What JSON text shows

The JSON form of a document is what its JSON text shows of it.  Infinities and NaN are nulls in
it, keys are texts, and a tagged node is an object with the tag as its only key.  A document with
another key has no form.

A form can be told from its text, also where something follows it that starts with a comma or a
closing bracket.  The first character tells the kind of a form; a number ends before the first
character that is none of a number, and a string at its closing quote.
-/

namespace RuleSchema.Json

open Decimal

/-- What JSON text shows of a document. -/
inductive Form where
  | null
  | bool (value : Bool)
  | whole (value : Whole)
  | float (value : Float) (finite : value.isFinite = true)
  | string (text : String)
  | array (items : List Form)
  | object (members : List (String × Form))

namespace Form

mutual

/-- The characters of a form's text. -/
def text : Form → List Char
  | .null => "null".toList
  | .bool value => (if value then "true" else "false").toList
  | .whole value => (toString value.value).toList
  | .float value _ => (Layout.json.render value).toList
  | .string text => (Writer.quoted text).toList
  | .array [] => ['[', ']']
  | .array (item :: rest) => '[' :: (item.text ++ (itemsText rest ++ [']']))
  | .object [] => ['\x7b', '\x7d']
  | .object ((name, value) :: rest) =>
      '\x7b' :: ((Writer.quoted name).toList ++ ':' ::
        (value.text ++ (membersText rest ++ ['\x7d'])))

/-- The items after the first. -/
def itemsText : List Form → List Char
  | [] => []
  | item :: rest => ',' :: (item.text ++ itemsText rest)

/-- The members after the first. -/
def membersText : List (String × Form) → List Char
  | [] => []
  | (name, value) :: rest =>
      ',' :: ((Writer.quoted name).toList ++ ':' :: (value.text ++ membersText rest))

end

mutual

/-- The document that is its own form, with the forms of its members. -/
def toDocument : Form → Document
  | .null => .null
  | .bool value => .bool value
  | .whole value => .number (.whole value)
  | .float value _ => .number (.float value)
  | .string text => .string text
  | .array items => .sequence (toItems items)
  | .object members => .mapping (toEntries members)

/-- The items of an array as documents. -/
def toItems : List Form → List Document
  | [] => []
  | item :: rest => item.toDocument :: toItems rest

/-- The members of an object as entries of a mapping. -/
def toEntries : List (String × Form) → Mapping
  | [] => []
  | (name, value) :: rest => (.string name, value.toDocument) :: toEntries rest

end

end Form

mutual

/-- The JSON form of a document, if it has one. -/
def form? : Document → Option Form
  | .null => some .null
  | .bool value => some (.bool value)
  | .number (.whole value) => some (.whole value)
  | .number (.float value) =>
      some (if finite : value.isFinite = true then .float value finite else .null)
  | .string text => some (.string text)
  | .sequence items => (formItems? items).map .array
  | .mapping entries => (formMembers? entries).map .object
  | .tagged name value => (form? value).map fun inner => .object [("!" ++ name, inner)]

/-- The forms of the items of a sequence, if all have one. -/
def formItems? : List Document → Option (List Form)
  | [] => some []
  | item :: rest => do
      let first ← form? item
      let others ← formItems? rest
      return first :: others

/-- The members of a mapping, if all keys have a text and all values a form. -/
def formMembers? : Mapping → Option (List (String × Form))
  | [] => some []
  | (key, value) :: rest => do
      let name ← Writer.keyText? key
      let inner ← form? value
      let others ← formMembers? rest
      return (name, inner) :: others

end

/-! ## Plain documents -/

mutual

/-- Whether a document has no tags, no keys but texts, and no infinities or NaN. -/
def isPlain : Document → Bool
  | .number (.float value) => value.isFinite
  | .sequence items => arePlain items
  | .mapping entries => haveTextKeys entries
  | .tagged _ _ => false
  | _ => true

/-- Whether every item is plain. -/
def arePlain : List Document → Bool
  | [] => true
  | item :: rest => isPlain item && arePlain rest

/-- Whether keys are texts and values are plain. -/
def haveTextKeys : Mapping → Bool
  | [] => true
  | (.string _, value) :: rest => isPlain value && haveTextKeys rest
  | _ => false

end

mutual

/-- A plain document has a form that shows all of it. -/
theorem exists_form_of_isPlain : ∀ document : Document, isPlain document = true →
    ∃ form, form? document = some form ∧ form.toDocument = document
  | .null, _ => ⟨.null, rfl, rfl⟩
  | .bool value, _ => ⟨.bool value, rfl, rfl⟩
  | .number (.whole value), _ => ⟨.whole value, rfl, rfl⟩
  | .number (.float value), plain => by
      rw [isPlain] at plain
      exact ⟨.float value plain, by rw [form?, dif_pos plain], rfl⟩
  | .string text, _ => ⟨.string text, rfl, rfl⟩
  | .sequence items, plain => by
      rcases exists_forms_of_arePlain items plain with ⟨forms, shown, same⟩
      exact ⟨.array forms, by rw [form?, shown, Option.map_some], by rw [Form.toDocument, same]⟩
  | .mapping entries, plain => by
      rcases exists_members_of_haveTextKeys entries plain with ⟨members, shown, same⟩
      exact
        ⟨.object members, by rw [form?, shown, Option.map_some], by rw [Form.toDocument, same]⟩

theorem exists_forms_of_arePlain : ∀ items : List Document, arePlain items = true →
    ∃ forms, formItems? items = some forms ∧ Form.toItems forms = items
  | [], _ => ⟨[], rfl, rfl⟩
  | item :: rest, plain => by
      rw [arePlain, Bool.and_eq_true] at plain
      rcases exists_form_of_isPlain item plain.1 with ⟨form, shown, same⟩
      rcases exists_forms_of_arePlain rest plain.2 with ⟨forms, othersShown, othersSame⟩
      refine ⟨form :: forms, ?_, by rw [Form.toItems, same, othersSame]⟩
      rw [formItems?, shown, othersShown]
      rfl

theorem exists_members_of_haveTextKeys : ∀ entries : Mapping, haveTextKeys entries = true →
    ∃ members, formMembers? entries = some members ∧ Form.toEntries members = entries
  | [], _ => ⟨[], rfl, rfl⟩
  | (key, value) :: rest, plain => by
      cases key with
      | string name =>
          rw [haveTextKeys, Bool.and_eq_true] at plain
          rcases exists_form_of_isPlain value plain.1 with ⟨form, shown, same⟩
          rcases exists_members_of_haveTextKeys rest plain.2 with
            ⟨members, othersShown, othersSame⟩
          refine ⟨(name, form) :: members, ?_, by rw [Form.toEntries, same, othersSame]⟩
          rw [formMembers?, shown, othersShown]
          rfl
      | _ => cases plain

end

/-! ## The writer -/

section Writer

open Writer Form

mutual

/-- Compact JSON text is the text of the form. -/
theorem node?_compact (depth : Nat) : ∀ document : Document,
    node? .compact depth document = (form? document).map fun form => String.ofList form.text
  | .null => rfl
  | .bool true => rfl
  | .bool false => rfl
  | .number (.whole value) => by
      rw [node?, form?, Option.map_some, text, String.ofList_toList, numberText]
  | .number (.float value) => by
      rw [node?, form?, Option.map_some, numberText]
      split
      · rw [text, String.ofList_toList]
      · next infinite => rw [Layout.render_of_not_isFinite infinite]; rfl
  | .string value => by
      rw [node?, form?, Option.map_some, text, String.ofList_toList]
  | .sequence [] => rfl
  | .sequence (item :: rest) => by
      rw [node?, form?, formItems?, node?_compact (depth + 1) item, items?_compact (depth + 1) rest]
      cases form? item with
      | none => rfl
      | some first =>
          cases formItems? rest with
          | none => rfl
          | some others => simp [text, lineStart, String.append_assoc]
  | .mapping [] => rfl
  | .mapping ((key, value) :: rest) => by
      rw [node?, form?, formMembers?, node?_compact (depth + 1) value,
        entries?_compact (depth + 1) rest]
      cases keyText? key with
      | none => rfl
      | some name =>
          cases form? value with
          | none => rfl
          | some inner =>
              cases formMembers? rest with
              | none => rfl
              | some others => simp [text, lineStart, colon, String.append_assoc]
  | .tagged name value => by
      rw [node?, form?, node?_compact (depth + 1) value]
      cases form? value with
      | none => rfl
      | some inner => simp [text, membersText, lineStart, colon, String.append_assoc]

theorem items?_compact (depth : Nat) : ∀ items : List Document,
    items? .compact depth items =
      (formItems? items).map fun forms => String.ofList (itemsText forms)
  | [] => rfl
  | item :: rest => by
      rw [items?, formItems?, node?_compact depth item, items?_compact depth rest]
      cases form? item with
      | none => rfl
      | some first =>
          cases formItems? rest with
          | none => rfl
          | some others => simp [itemsText, lineStart, String.append_assoc]

theorem entries?_compact (depth : Nat) : ∀ entries : Mapping,
    entries? .compact depth entries =
      (formMembers? entries).map fun members => String.ofList (membersText members)
  | [] => rfl
  | (key, value) :: rest => by
      rw [entries?, formMembers?, node?_compact depth value, entries?_compact depth rest]
      cases keyText? key with
      | none => rfl
      | some name =>
          cases form? value with
          | none => rfl
          | some inner =>
              cases formMembers? rest with
              | none => rfl
              | some others => simp [membersText, lineStart, colon, String.append_assoc]

end

end Writer

/-! ## Unique reading -/

namespace Form

open Decimal.Layout

/-- Characters that may follow a form. -/
def isDelimiter (c : Char) : Bool := c == ',' || c == ']' || c == '\x7d'

/-- Whether a text is empty or starts with a character that may follow a form. -/
def isDelimited (rest : List Char) : Bool := rest.head?.all isDelimiter

/-- What a form can be; the two truth values are kinds of their own. -/
inductive Kind where
  | null
  | bool (value : Bool)
  | number
  | string
  | array
  | object

/-- The kind of the forms that start with a character, if there are any. -/
def kindOf? (c : Char) : Option Kind :=
  if isNumberCharacter c then some .number
  else if c = 'n' then some .null
  else if c = 't' then some (.bool true)
  else if c = 'f' then some (.bool false)
  else if c = '"' then some .string
  else if c = '[' then some .array
  else if c = '\x7b' then some .object
  else none

/-- The kind of a form, which the first character of its text tells. -/
def kind : Form → Kind
  | .null => .null
  | .bool value => .bool value
  | .whole _ => .number
  | .float _ _ => .number
  | .string _ => .string
  | .array _ => .array
  | .object _ => .object

theorem number_text {number : List Char} (all : number.all isNumberCharacter = true)
    (nonempty : number ≠ []) : ∃ c tail, number = c :: tail ∧ kindOf? c = some .number := by
  cases number with
  | nil => exact absurd rfl nonempty
  | cons c tail =>
      rw [List.all_cons, Bool.and_eq_true] at all
      exact ⟨c, tail, rfl, if_pos all.1⟩

theorem toString_ne_empty (number : Int) : (toString number).toList ≠ [] := by
  cases number with
  | ofNat size =>
      rw [toList_toString_ofNat]
      exact Nat.toDigits_ne_nil
  | negSucc size =>
      rw [toList_toString_negSucc]
      exact List.cons_ne_nil _ _

/-- The first character tells the kind of a form. -/
theorem exists_text_cons : ∀ form : Form,
    ∃ c tail, form.text = c :: tail ∧ kindOf? c = some form.kind
  | .null => ⟨'n', _, rfl, rfl⟩
  | .bool true => ⟨'t', _, rfl, rfl⟩
  | .bool false => ⟨'f', _, rfl, rfl⟩
  | .whole value => number_text (characters_toString value.value).1 (toString_ne_empty _)
  | .float _ finite => number_text (all_isNumberCharacter_render finite) (render_ne_empty finite)
  | .string text => ⟨'"', _, toList_quoted text, rfl⟩
  | .array [] => ⟨'[', _, rfl, rfl⟩
  | .array (_ :: _) => ⟨'[', _, rfl, rfl⟩
  | .object [] => ⟨'\x7b', _, rfl, rfl⟩
  | .object (_ :: _) => ⟨'\x7b', _, rfl, rfl⟩

theorem kind_eq_of_text_append {form other : Form} {rest otherRest : List Char}
    (same : form.text ++ rest = other.text ++ otherRest) : form.kind = other.kind := by
  rcases exists_text_cons form with ⟨c, tail, text, kind⟩
  rcases exists_text_cons other with ⟨otherC, otherTail, otherText, otherKind⟩
  rw [text, otherText, List.cons_append, List.cons_append, List.cons.injEq] at same
  rw [← Option.some_inj, ← kind, ← otherKind, same.1]

/-- A number ends before the first character that is none of a number. -/
theorem number_append_inj {number other rest otherRest : List Char}
    (all : number.all isNumberCharacter = true) (otherAll : other.all isNumberCharacter = true)
    (delimited : isDelimited rest = true) (otherDelimited : isDelimited otherRest = true)
    (same : number ++ rest = other ++ otherRest) : number = other ∧ rest = otherRest := by
  have ended {rest : List Char} (delimited : isDelimited rest = true) :
      rest.takeWhile isNumberCharacter = [] := by
    cases rest with
    | nil => rfl
    | cons c tail =>
        have noNumber : isNumberCharacter c = false := by
          rcases Bool.or_eq_true_iff.mp delimited with earlier | brace
          · rcases Bool.or_eq_true_iff.mp earlier with comma | bracket
            · rw [eq_of_beq comma]; decide
            · rw [eq_of_beq bracket]; decide
          · rw [eq_of_beq brace]; decide
        rw [List.takeWhile_cons, noNumber]
        rfl
  have numbers := congrArg (List.takeWhile isNumberCharacter) same
  rw [List.takeWhile_append_of_pos (List.all_eq_true.mp all),
    List.takeWhile_append_of_pos (List.all_eq_true.mp otherAll), ended delimited,
    ended otherDelimited, List.append_nil, List.append_nil] at numbers
  rw [numbers, List.append_cancel_left_eq] at same
  exact ⟨numbers, same⟩

theorem isDelimited_itemsText (items : List Form) (rest : List Char) :
    isDelimited (itemsText items ++ ']' :: rest) = true := by
  cases items <;> rfl

theorem isDelimited_membersText (members : List (String × Form)) (rest : List Char) :
    isDelimited (membersText members ++ '\x7d' :: rest) = true := by
  cases members with
  | nil => rfl
  | cons member others => rfl

/-- No form starts with a closing bracket or brace. -/
theorem text_append_ne {form : Form} {c : Char} (noKind : kindOf? c = none)
    (rest otherRest : List Char) : form.text ++ rest ≠ c :: otherRest := by
  intro same
  rcases exists_text_cons form with ⟨first, tail, text, kind⟩
  rw [text, List.cons_append, List.cons.injEq] at same
  rw [same.1, noKind] at kind
  cases kind

/-- Numbers can be told from their texts. -/
theorem eq_of_number_text_eq {form other : Form} (number : form.kind = .number)
    (otherNumber : other.kind = .number) (same : form.text = other.text) : form = other := by
  cases form with
  | whole value =>
      cases other with
      | whole otherValue =>
          have values : value.value = otherValue.value :=
            Int.repr_inj.mp (String.toList_inj.mp same)
          cases value
          cases otherValue
          cases values
          rfl
      | float otherValue finite =>
          exact absurd (String.toList_inj.mp same) (toString_ne_render value.value finite)
      | _ => cases otherNumber
  | float value finite =>
      cases other with
      | whole otherValue =>
          exact absurd (String.toList_inj.mp same).symm (toString_ne_render otherValue.value finite)
      | float otherValue otherFinite =>
          cases (render_inj finite otherFinite).mp (String.toList_inj.mp same)
          rfl
      | _ => cases otherNumber
  | _ => cases number

theorem all_isNumberCharacter_text {form : Form} (number : form.kind = .number) :
    form.text.all isNumberCharacter = true := by
  cases form with
  | whole value => exact (characters_toString value.value).1
  | float value finite => exact all_isNumberCharacter_render finite
  | _ => cases number

theorem number_text_append_inj {form other : Form} {rest otherRest : List Char}
    (number : form.kind = .number) (otherNumber : other.kind = .number)
    (delimited : isDelimited rest = true) (otherDelimited : isDelimited otherRest = true)
    (same : form.text ++ rest = other.text ++ otherRest) : form = other ∧ rest = otherRest := by
  have parts := number_append_inj (all_isNumberCharacter_text number)
    (all_isNumberCharacter_text otherNumber) delimited otherDelimited same
  exact ⟨eq_of_number_text_eq number otherNumber parts.1, parts.2⟩

theorem itemsText_of_array {items others : List Form} {rest otherRest : List Char}
    (same : (array items).text ++ rest = (array others).text ++ otherRest) :
    itemsText items ++ ']' :: rest = itemsText others ++ ']' :: otherRest := by
  cases items with
  | nil =>
      cases others with
      | nil => exact (List.cons.inj same).2
      | cons other others =>
          simp only [text, List.cons_append, List.append_assoc] at same
          exact absurd (List.cons.inj same).2.symm (text_append_ne rfl _ _)
  | cons item items =>
      cases others with
      | nil =>
          simp only [text, List.cons_append, List.append_assoc] at same
          exact absurd (List.cons.inj same).2 (text_append_ne rfl _ _)
      | cons other others =>
          rw [text, text, List.cons_append, List.cons_append] at same
          simpa [itemsText] using same

theorem membersText_of_object {members others : List (String × Form)} {rest otherRest : List Char}
    (same : (object members).text ++ rest = (object others).text ++ otherRest) :
    membersText members ++ '\x7d' :: rest = membersText others ++ '\x7d' :: otherRest := by
  cases members with
  | nil =>
      cases others with
      | nil => exact (List.cons.inj same).2
      | cons other others =>
          rw [text, text, List.cons_append, List.cons_append, toList_quoted] at same
          cases (List.cons.inj (List.cons.inj same).2).1
  | cons member members =>
      cases others with
      | nil =>
          rw [text, text, List.cons_append, List.cons_append, toList_quoted] at same
          cases (List.cons.inj (List.cons.inj same).2).1
      | cons other others =>
          rw [text, text, List.cons_append, List.cons_append] at same
          simpa [membersText] using same

mutual

/-- A form can be told from its text, and from what follows it. -/
theorem text_append_inj : ∀ (form other : Form) {rest otherRest : List Char},
    isDelimited rest = true → isDelimited otherRest = true →
      form.text ++ rest = other.text ++ otherRest → form = other ∧ rest = otherRest
  | .null, other, rest, otherRest, _, _, same => by
      have kinds := kind_eq_of_text_append same
      cases other with
      | null => exact ⟨rfl, List.append_cancel_left same⟩
      | _ => cases kinds
  | .bool value, other, rest, otherRest, _, _, same => by
      have kinds := kind_eq_of_text_append same
      cases other with
      | bool otherValue =>
          cases kinds
          exact ⟨rfl, List.append_cancel_left same⟩
      | _ => cases kinds
  | .whole value, other, rest, otherRest, delimited, otherDelimited, same =>
      number_text_append_inj rfl (kind_eq_of_text_append same).symm delimited otherDelimited same
  | .float value finite, other, rest, otherRest, delimited, otherDelimited, same =>
      number_text_append_inj rfl (kind_eq_of_text_append same).symm delimited otherDelimited same
  | .string value, other, rest, otherRest, _, _, same => by
      have kinds := kind_eq_of_text_append same
      cases other with
      | string otherValue =>
          rcases quoted_append_inj same with ⟨values, rests⟩
          rw [values]
          exact ⟨rfl, rests⟩
      | _ => cases kinds
  | .array items, other, rest, otherRest, _, _, same => by
      -- The closing bracket ends the items, so that anything may follow the array.
      have kinds := kind_eq_of_text_append same
      cases other with
      | array others =>
          rcases itemsText_append_inj items others (itemsText_of_array same) with ⟨same, rests⟩
          rw [same]
          exact ⟨rfl, rests⟩
      | _ => cases kinds
  | .object members, other, rest, otherRest, _, _, same => by
      have kinds := kind_eq_of_text_append same
      cases other with
      | object others =>
          rcases membersText_append_inj members others (membersText_of_object same) with
            ⟨same, rests⟩
          rw [same]
          exact ⟨rfl, rests⟩
      | _ => cases kinds

theorem itemsText_append_inj : ∀ (items others : List Form) {rest otherRest : List Char},
    itemsText items ++ ']' :: rest = itemsText others ++ ']' :: otherRest →
      items = others ∧ rest = otherRest
  | [], [], rest, otherRest, same => ⟨rfl, (List.cons.inj same).2⟩
  | [], _ :: _, rest, otherRest, same => by cases (List.cons.inj same).1
  | _ :: _, [], rest, otherRest, same => by cases (List.cons.inj same).1
  | item :: items, other :: others, rest, otherRest, same => by
      rw [itemsText, itemsText, List.cons_append, List.cons_append, List.append_assoc,
        List.append_assoc] at same
      rcases text_append_inj item other (isDelimited_itemsText items rest)
        (isDelimited_itemsText others otherRest) (List.cons.inj same).2 with ⟨first, later⟩
      rcases itemsText_append_inj items others later with ⟨tails, rests⟩
      rw [first, tails]
      exact ⟨rfl, rests⟩

theorem membersText_append_inj : ∀ (members others : List (String × Form))
    {rest otherRest : List Char},
    membersText members ++ '\x7d' :: rest = membersText others ++ '\x7d' :: otherRest →
      members = others ∧ rest = otherRest
  | [], [], rest, otherRest, same => ⟨rfl, (List.cons.inj same).2⟩
  | [], _ :: _, rest, otherRest, same => by cases (List.cons.inj same).1
  | _ :: _, [], rest, otherRest, same => by cases (List.cons.inj same).1
  | (name, value) :: members, (otherName, otherValue) :: others, rest, otherRest, same => by
      rw [membersText, membersText, List.cons_append, List.cons_append, List.append_assoc,
        List.append_assoc] at same
      rcases quoted_append_inj (List.cons.inj same).2 with ⟨names, after⟩
      rw [List.cons_append, List.cons_append, List.append_assoc, List.append_assoc] at after
      rcases text_append_inj value otherValue (isDelimited_membersText members rest)
        (isDelimited_membersText others otherRest) (List.cons.inj after).2 with ⟨first, later⟩
      rcases membersText_append_inj members others later with ⟨tails, rests⟩
      rw [names, first, tails]
      exact ⟨rfl, rests⟩

end

theorem text_inj {form other : Form} : form.text = other.text ↔ form = other := by
  constructor
  · intro same
    have withoutRest : form.text ++ [] = other.text ++ [] := by rw [same]
    exact (text_append_inj form other rfl rfl withoutRest).1
  · exact congrArg text

end Form

end RuleSchema.Json
