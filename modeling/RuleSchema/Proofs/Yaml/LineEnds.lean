import RuleSchema.Yaml.Writer

/-!
# How YAML text ends

A cursor is settled if nothing but indentation and block indicators after the last line end
means that the text does not end with a brace.  Writing keeps cursors settled: a token that may
end with a brace is content of its line.  At last the line is ended if it has content, so that
no written text ends with a brace.
-/

namespace RuleSchema.Yaml.Writer

open Style

/-- Whether a text ends with a closing brace. -/
def endsInBrace (text : String) : Bool := text.toList.getLast? == some '\x7d'

theorem endsInBrace_append (text more : String) :
    endsInBrace (text ++ more) = if more = "" then endsInBrace text else endsInBrace more := by
  rw [endsInBrace, String.toList_append, List.getLast?_append]
  split
  · next empty =>
    rw [empty]
    rfl
  · next nonempty =>
    have last : more.toList ≠ [] := fun empty => nonempty (String.toList_eq_nil_iff.mp empty)
    rw [endsInBrace, List.getLast?_eq_some_getLast last]
    rfl

theorem endsInBrace_blanks (count : Nat) :
    endsInBrace (String.ofList (List.replicate count ' ')) = false := by
  rw [endsInBrace, String.toList_ofList, List.getLast?_replicate]
  split <;> decide

theorem endsInBrace_break {c : Char} (isBreak : Style.isBreak c = true) :
    endsInBrace c.toString = false := by
  have last : c.toString.toList = [c] := by simp [Char.toString]
  rw [endsInBrace, last, List.getLast?_singleton, beq_eq_false_iff_ne, Ne, Option.some_inj]
  rintro rfl
  cases isBreak

namespace Cursor

/-- Nothing but indentation and indicators stands after a text that ends with a brace. -/
def IsSettled (cursor : Cursor) : Prop := cursor.atIndent = true → endsInBrace cursor.text = false

variable {cursor : Cursor} (settled : cursor.IsSettled)

theorem isSettled_start : start.IsSettled := fun _ => rfl

theorem isSettled_token (text : String) : (cursor.token text).IsSettled := nofun

include settled

theorem IsSettled.put {text : String} (noBrace : endsInBrace text = false) :
    (cursor.put text).IsSettled := by
  intro atIndent
  have before := settled atIndent
  change endsInBrace (cursor.text ++ text) = false
  rw [endsInBrace_append, noBrace, before, ite_self]

theorem IsSettled.separate : cursor.separate.IsSettled := by
  rw [Cursor.separate]
  split
  · exact settled
  · exact settled.put rfl

theorem IsSettled.blockIndicator {mark : String} (noBrace : endsInBrace mark = false) :
    (cursor.blockIndicator mark).IsSettled :=
  settled.separate.put noBrace

theorem IsSettled.endsInBrace_indentTo (column : Nat) :
    endsInBrace (cursor.indentTo column).text = false := by
  rw [indentTo]
  split
  · change endsInBrace (cursor.text ++ "\n" ++ String.ofList _) = false
    rw [endsInBrace_append, endsInBrace_append, endsInBrace_blanks]
    split <;> rfl
  · next stays =>
    have atIndent : cursor.atIndent = true := by
      cases content : cursor.atIndent with
      | true => rfl
      | false => exact absurd (by simp [content]) stays
    change endsInBrace (cursor.text ++ String.ofList _) = false
    rw [endsInBrace_append, endsInBrace_blanks, settled atIndent, ite_self]

theorem IsSettled.indentTo (column : Nat) : (cursor.indentTo column).IsSettled :=
  fun _ => settled.endsInBrace_indentTo column

end Cursor

/-! ## Scalars -/

open Cursor

variable {cursor : Cursor}

theorem isSettled_writeTag (tag : Option String) (settled : cursor.IsSettled) :
    (writeTag tag cursor).IsSettled := by
  cases tag with
  | none => exact settled
  | some name => exact isSettled_token _

theorem endsInBrace_endLine (cursor : Cursor) {lineEnd : String} (some : lineEnd ≠ "")
    (noBrace : endsInBrace lineEnd = false) : endsInBrace (cursor.endLine lineEnd).text = false := by
  change endsInBrace (cursor.text ++ lineEnd) = false
  rw [endsInBrace_append, if_neg some, noBrace]

theorem isSettled_writeLiteral (column : Nat) (text : List Char) :
    (writeLiteral column text cursor).IsSettled := by
  rw [writeLiteral]
  apply List.foldlRecOn (motive := fun state : Cursor × Bool => state.1.IsSettled)
  · exact fun _ => endsInBrace_endLine _ (by decide) rfl
  · intro state _ c _
    split
    · next isBreak =>
      exact fun _ => endsInBrace_endLine _ (by simp [Char.toString]) (endsInBrace_break isBreak)
    · exact nofun

theorem isSettled_writeText (indent : Option Nat) (text : String) :
    (writeText indent text cursor).IsSettled := by
  rw [writeText]
  split
  · exact isSettled_token _
  · exact isSettled_token _
  · exact isSettled_token _
  · exact isSettled_writeLiteral _ _

/-! ## Nodes -/

mutual

/-- Writing a node keeps cursors settled. -/
theorem isSettled_writeNode (document : Document) {indent : Option Nat} {place : Place}
    {tag : Option String} {cursor written : Cursor} (settled : cursor.IsSettled)
    (isWritten : writeNode indent place tag document cursor = some written) :
    written.IsSettled := by
  match document with
  | .null | .bool _ | .number _ =>
      simp only [writeNode] at isWritten
      rw [← Option.some.inj isWritten]
      exact isSettled_token _
  | .tagged name value =>
      simp only [writeNode] at isWritten
      split at isWritten
      · cases isWritten
      · exact isSettled_writeNode value settled isWritten
  | .string text =>
      simp only [writeNode] at isWritten
      rw [← Option.some.inj isWritten]
      exact isSettled_writeText _ _
  | .sequence [] =>
      simp only [writeNode] at isWritten
      rw [← Option.some.inj isWritten]
      exact isSettled_token _
  | .sequence (item :: items) =>
      simp only [writeNode] at isWritten
      exact isSettled_writeItems (item :: items) (isSettled_writeTag tag settled) isWritten
  | .mapping [] =>
      simp only [writeNode] at isWritten
      rw [← Option.some.inj isWritten]
      exact isSettled_token _
  | .mapping (entry :: rest) =>
      simp only [writeNode] at isWritten
      split at isWritten
      · cases isWritten
      · exact isSettled_writeEntries (entry :: rest) (isSettled_writeTag tag settled) isWritten

theorem isSettled_writeItems (items : List Document) {column : Nat} {cursor written : Cursor}
    (settled : cursor.IsSettled) (isWritten : writeItems column items cursor = some written) :
    written.IsSettled := by
  match items with
  | [] =>
      rw [writeItems] at isWritten
      rw [← Option.some.inj isWritten]
      exact settled
  | item :: rest =>
      rw [writeItems] at isWritten
      split at isWritten
      · cases isWritten
      · next first =>
        have here := isSettled_writeNode item ((settled.indentTo column).blockIndicator rfl) first
        exact isSettled_writeItems rest here isWritten

theorem isSettled_writeEntries (entries : Mapping) {column : Nat} {cursor written : Cursor}
    (settled : cursor.IsSettled) (isWritten : writeEntries column entries cursor = some written) :
    written.IsSettled := by
  match entries with
  | [] =>
      rw [writeEntries] at isWritten
      rw [← Option.some.inj isWritten]
      exact settled
  | (key, value) :: rest =>
      rw [writeEntries] at isWritten
      dsimp only at isWritten
      have line := settled.indentTo column
      have opened : (if isSimpleKey 0 key then cursor.indentTo column
          else (cursor.indentTo column).blockIndicator "?").IsSettled := by
        split
        · exact line
        · exact line.blockIndicator rfl
      split at isWritten
      · cases isWritten
      · next keyed first =>
        have afterKey := isSettled_writeNode key opened first
        have marked : (if isSimpleKey 0 key then keyed.token ":"
            else (keyed.indentTo column).blockIndicator ":").IsSettled := by
          split
          · exact isSettled_token _
          · exact (afterKey.indentTo column).blockIndicator rfl
        split at isWritten
        · cases isWritten
        · next second =>
          have afterValue := isSettled_writeNode value marked second
          exact isSettled_writeEntries rest afterValue isWritten

end

/-- No document is written as a text that ends with a brace. -/
theorem endsInBrace_render? {document : Document} {text : String}
    (rendered : render? document = some text) : endsInBrace text = false := by
  rcases Option.map_eq_some_iff.mp rendered with ⟨written, isWritten, rfl⟩
  exact (isSettled_writeNode document isSettled_start isWritten).endsInBrace_indentTo 0

end RuleSchema.Yaml.Writer
