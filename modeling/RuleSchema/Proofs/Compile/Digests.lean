import RuleSchema.Proofs.Compile.Rounds
import RuleSchema.Proofs.Json.Forms
import RuleSchema.Proofs.Yaml.LineEnds

/-!
# What the digest tells of rules

The bytes that are hashed for rules with a JSON form are those of exactly the rules with the
same form: the compact text tells the form, and the text of an object ends with a brace, as no
YAML text does.  Rules that are plain, that is without tags, with text keys and finite numbers,
are told by their form, so that a change of the compiled type is a change of the hashed bytes.

A form is less than a document.  The largest and the smallest default are the same null in it.
-/

namespace RuleSchema

namespace Document

variable {document : Document}

theorem hashedText_of_form {form : Json.Form} (shown : Json.form? document = some form) :
    document.hashedText = String.ofList form.text := by
  rw [hashedText, Json.Writer.render?, Json.node?_compact, shown]
  rfl

theorem endsInBrace_hashedText_of_no_form (noForm : Json.form? document = none) :
    Yaml.Writer.endsInBrace document.hashedText = false := by
  rw [hashedText, Json.Writer.render?, Json.node?_compact, noForm]
  cases rendered : Yaml.Writer.render? document with
  | none => rfl
  | some text => exact Yaml.Writer.endsInBrace_render? rendered

/-- The form of a document that is a mapping below its tags is an object. -/
theorem exists_object_of_asMapping? {entries : Mapping}
    (mapping : document.asMapping? = some entries) {form : Json.Form}
    (shown : Json.form? document = some form) : ∃ members, form = .object members := by
  cases document with
  | mapping own =>
      rw [Json.form?] at shown
      rcases Option.map_eq_some_iff.mp shown with ⟨members, _, rfl⟩
      exact ⟨members, rfl⟩
  | tagged name inner =>
      rw [Json.form?] at shown
      rcases Option.map_eq_some_iff.mp shown with ⟨value, _, rfl⟩
      exact ⟨_, rfl⟩
  | _ => simp [asMapping?, untagged] at mapping

theorem endsInBrace_object (members : List (String × Json.Form)) :
    Yaml.Writer.endsInBrace (String.ofList (Json.Form.object members).text) = true := by
  rw [Yaml.Writer.endsInBrace, String.toList_ofList]
  cases members with
  | nil => rfl
  | cons member rest =>
      rw [Json.Form.text]
      simp [List.getLast?_cons]

end Document

namespace Schema

variable {registry : Registry} {rules other : Document} {schema otherSchema : Schema}

theorem toUTF8_inj {text other : String} : text.toUTF8 = other.toUTF8 ↔ text = other := by
  rw [String.toUTF8_eq_toByteArray, String.toUTF8_eq_toByteArray, String.toByteArray_inj]

/-- Rules with a form are hashed like the documents of the same form, and like no others. -/
theorem hashedText_eq_iff (compiled : compile registry rules = .ok schema) {form : Json.Form}
    (shown : Json.form? rules = some form) :
    rules.hashedText = other.hashedText ↔ Json.form? other = some form := by
  rw [Document.hashedText_of_form shown]
  constructor
  · intro same
    cases otherShown : Json.form? other with
    | none =>
        -- Rules are a mapping, so that their text ends with a brace, and the other one does not.
        rcases compile_eq_ok compiled with ⟨entries, mapping, -⟩
        rcases Document.exists_object_of_asMapping? mapping shown with ⟨members, rfl⟩
        have ends := Document.endsInBrace_object members
        rw [same, Document.endsInBrace_hashedText_of_no_form otherShown] at ends
        cases ends
    | some otherForm =>
        rw [Document.hashedText_of_form otherShown, String.ofList_inj, Json.Form.text_inj] at same
        rw [same]
  · intro otherShown
    rw [Document.hashedText_of_form otherShown]

/--
Rules with a JSON form are hashed as the same bytes as the rules of the same form, and as no
others.  So plain rules with different types are hashed as different bytes.
-/
theorem hashed_alike_iff (compiled : compile registry rules = .ok schema)
    (otherCompiled : compile registry other = .ok otherSchema) :
    (∀ form, Json.form? rules = some form →
      (rules.hashedText.toUTF8 = other.hashedText.toUTF8 ↔ Json.form? other = some form)) ∧
    (Json.isPlain rules = true → Json.isPlain other = true → schema.type ≠ otherSchema.type →
      rules.hashedText.toUTF8 ≠ other.hashedText.toUTF8) := by
  constructor
  · intro form shown
    rw [toUTF8_inj]
    exact hashedText_eq_iff compiled shown
  · intro plain otherPlain differ same
    rcases Json.exists_form_of_isPlain rules plain with ⟨form, shown, own⟩
    rcases Json.exists_form_of_isPlain other otherPlain with ⟨otherForm, otherShown, otherOwn⟩
    have alike := (hashedText_eq_iff compiled shown).mp (toUTF8_inj.mp same)
    obtain rfl : otherForm = form := Option.some.inj (otherShown.symm.trans alike)
    obtain rfl : rules = other := own.symm.trans otherOwn
    have schemas : schema = otherSchema := Except.ok.inj (compiled.symm.trans otherCompiled)
    exact differ (congrArg Schema.type schemas)

/-! ## Defaults -/

/-- Rules with a single limit, which has a default. -/
def limitRules (default : Document) : Document :=
  .mapping [(.string "limit", .mapping
    [(.string "type", .string "float"), (.string "default", default)])]

/-- Whether a field has a default that passes a test. -/
def hasDefault (test : Document → Bool) (type : RecordType) : Bool :=
  type.fields.any fun field => field.default.any test

theorem exists_hasDefault (rules : Document) (test : Document → Bool) (passes : Bool)
    (checked : (compile .standard rules).toOption.map (fun schema => hasDefault test schema.type) =
      some passes) :
    ∃ schema, compile .standard rules = .ok schema ∧ hasDefault test schema.type = passes := by
  cases compiled : compile .standard rules with
  | error reason =>
      rw [compiled] at checked
      cases checked
  | ok schema =>
      rw [compiled] at checked
      exact ⟨schema, rfl, Option.some.inj checked⟩

theorem type_ne_of_hasDefault {test : Document → Bool}
    (passes : hasDefault test schema.type = true)
    (otherFails : hasDefault test otherSchema.type = false) : schema.type ≠ otherSchema.type := by
  intro same
  rw [same, otherFails] at passes
  cases passes

/-- Whether a document is a whole number. -/
def isWhole : Document → Bool
  | .number (.whole _) => true
  | _ => false

/-- Whether a document is a float without a minus sign. -/
def isPositive : Document → Bool
  | .number (.float value) => value.toBits.toNat < 2 ^ 63
  | _ => false

/-- A whole default and one with a point are hashed as different bytes. -/
theorem hashed_alike_iff_limits :
    ∃ schema otherSchema, compile .standard (limitRules (.ofInt64 1)) = .ok schema ∧
      compile .standard (limitRules (.ofFloat 1)) = .ok otherSchema ∧
      schema.type ≠ otherSchema.type ∧
      (limitRules (.ofInt64 1)).hashedText.toUTF8 ≠
        (limitRules (.ofFloat 1)).hashedText.toUTF8 := by
  rcases exists_hasDefault (limitRules (.ofInt64 1)) isWhole true (by decide +kernel) with
    ⟨schema, compiled, passes⟩
  rcases exists_hasDefault (limitRules (.ofFloat 1)) isWhole false (by decide +kernel) with
    ⟨otherSchema, otherCompiled, otherFails⟩
  have differ := type_ne_of_hasDefault passes otherFails
  exact ⟨schema, otherSchema, compiled, otherCompiled, differ,
    (hashed_alike_iff compiled otherCompiled).2 (by decide +kernel) (by decide +kernel) differ⟩

/-- An infinity of either sign. -/
def infinity (negative : Bool) : Document :=
  .ofFloat (Decimal.Rounding.withSign negative Decimal.Rounding.infinityBits)

/-- Either infinity is null in the form of the rules. -/
theorem form?_infinity (negative : Bool) : Json.form? (limitRules (infinity negative)) =
    some (.object [("limit", .object [("type", .string "float"), ("default", .null)])]) := by
  cases negative <;> rfl

/-- Infinity and its opposite are hashed as the same bytes, though the types have them apart. -/
theorem hashed_alike_infinities :
    ∃ schema otherSchema, compile .standard (limitRules (infinity false)) = .ok schema ∧
      compile .standard (limitRules (infinity true)) = .ok otherSchema ∧
      schema.type ≠ otherSchema.type ∧
      (limitRules (infinity false)).hashedText.toUTF8 =
        (limitRules (infinity true)).hashedText.toUTF8 := by
  rcases exists_hasDefault (limitRules (infinity false)) isPositive true (by decide +kernel) with
    ⟨schema, compiled, passes⟩
  rcases exists_hasDefault (limitRules (infinity true)) isPositive false (by decide +kernel) with
    ⟨otherSchema, otherCompiled, otherFails⟩
  exact
    ⟨schema, otherSchema, compiled, otherCompiled, type_ne_of_hasDefault passes otherFails,
      toUTF8_inj.mpr ((hashedText_eq_iff compiled (form?_infinity false)).mpr
        (form?_infinity true))⟩

end Schema

end RuleSchema
