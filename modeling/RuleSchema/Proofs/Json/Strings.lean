import RuleSchema.Json.Reader
import RuleSchema.Json.Writer

/-!
# JSON strings are read back

Each character is read back from the way it is written, whether it is escaped or not.  A quoted
text is therefore read back with what stands after it, so that it tells where it ends.
-/

namespace RuleSchema.Json

open Reader Writer

theorem natInBase?_hexEscape : ∀ code < 32,
    Yaml.Scalar.natInBase? 16 ['0', '0', Nat.digitChar (code / 16), Nat.digitChar (code % 16)] =
      some code := by
  decide

/-- A character is read back from the way it is written. -/
theorem string?_escaped (c : Char) (fuel : Nat) (read rest : List Char) :
    string? (fuel + 1) read ((escaped c).toList ++ rest) = string? fuel (c :: read) rest := by
  -- The cases of the writer, in its order; each escape is one that the reader knows.
  by_cases quote : c = '"'
  · subst quote
    rfl
  by_cases backslash : c = '\\'
  · subst backslash
    rfl
  by_cases lineFeed : c = '\n'
  · subst lineFeed
    rfl
  by_cases tab : c = '\t'
  · subst tab
    rfl
  by_cases carriageReturn : c = '\r'
  · subst carriageReturn
    rfl
  by_cases backspace : c.toNat = 8
  · obtain rfl : c = '\x08' := Char.toNat_inj.mp backspace
    rfl
  by_cases formFeed : c.toNat = 12
  · obtain rfl : c = '\x0c' := Char.toNat_inj.mp formFeed
    rfl
  simp only [escaped, quote, backslash, lineFeed, tab, carriageReturn, backspace, formFeed, if_false]
  split
  · next control =>
    have digits : hex4? ('0' :: '0' :: Nat.digitChar (c.toNat / 16) ::
        Nat.digitChar (c.toNat % 16) :: rest) = some (c.toNat, rest) := by
      rw [hex4?, natInBase?_hexEscape c.toNat control]
    have unescaped : escape? ('u' :: '0' :: '0' :: Nat.digitChar (c.toNat / 16) ::
        Nat.digitChar (c.toNat % 16) :: rest) = some (c, rest) := by
      simp only [escape?, digits]
      rw [if_neg (by omega), if_neg (by omega), Char.ofNat_toNat]
    have text : (hexEscape c.toNat).toList ++ rest = '\\' :: 'u' :: '0' :: '0' ::
        Nat.digitChar (c.toNat / 16) :: Nat.digitChar (c.toNat % 16) :: rest := by
      simp [hexEscape]
    rw [text, string?, if_neg (by decide), if_pos rfl, unescaped]
  · next printable =>
    have single : c.toString.toList = [c] := by simp [Char.toString]
    rw [single, List.singleton_append, string?, if_neg quote, if_neg backslash, if_neg printable]

/-- The characters of a text are read back up to the closing quote. -/
theorem string?_flatMap_escaped {characters : List Char} {fuel : Nat}
    (enough : characters.length < fuel) (read rest : List Char) :
    string? fuel read ((characters.flatMap fun c => (escaped c).toList) ++ '"' :: rest) =
      some (String.ofList (read.reverse ++ characters), rest) := by
  induction characters generalizing fuel read with
  | nil =>
      cases fuel with
      | zero => cases enough
      | succ fuel =>
          rw [List.flatMap_nil, List.nil_append, string?, if_pos rfl, List.append_nil]
  | cons c characters ih =>
      cases fuel with
      | zero => cases enough
      | succ fuel =>
          rw [List.flatMap_cons, List.append_assoc, string?_escaped,
            ih (Nat.lt_of_succ_lt_succ enough), List.reverse_cons, List.append_assoc,
            List.singleton_append]

theorem toList_quoted (text : String) :
    (quoted text).toList =
      '"' :: ((text.toList.flatMap fun c => (escaped c).toList) ++ ['"']) := by
  simp [quoted, List.flatMap_map]

/-- A quoted text tells where it ends. -/
theorem quoted_append_inj {text other : String} {rest otherRest : List Char}
    (same : (quoted text).toList ++ rest = (quoted other).toList ++ otherRest) :
    text = other ∧ rest = otherRest := by
  rw [toList_quoted, toList_quoted, List.cons_append, List.cons_append, List.cons.injEq,
    List.append_assoc, List.append_assoc, List.singleton_append, List.singleton_append] at same
  have enough : text.toList.length < text.toList.length + other.toList.length + 1 := by omega
  have otherEnough : other.toList.length < text.toList.length + other.toList.length + 1 := by
    omega
  have read := string?_flatMap_escaped enough [] rest
  rw [same.2, string?_flatMap_escaped otherEnough, Option.some_inj, Prod.mk.injEq,
    String.ofList_inj, List.append_cancel_left_eq, String.toList_inj] at read
  exact read.imp Eq.symm Eq.symm

end RuleSchema.Json
