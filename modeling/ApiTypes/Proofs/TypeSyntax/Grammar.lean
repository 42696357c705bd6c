/-
# The grammar of types

The rules by which texts of types are put together, each proved of the reader:

* `reads_word`, `reads_literal`, `reads_openRecord`: a single operand;
* `Reads.brackets`: brackets belong to the operand before them;
* `Reads.parens`: a type in parentheses is one operand;
* `Reads.append`, `Reads.joined`: signs between texts stand between their rows;
* `reads_object`: an object type lists its fields.
-/
import ApiTypes.Proofs.TypeSyntax.Reader

namespace ApiTypes.TypeSyntax

/-! ## Single operands -/

theorem reads_word (text : String) (hne : text ≠ "") (h : IsQualifier text) :
    Reads text ([], .name text) :=
  ⟨[.word text], tokens_word hne h, fun outer below => by simp [run, step]⟩

theorem reads_literal (value : String) : Reads (TypeText.literal value) ([], .literal value) :=
  ⟨[.literal value], tokens_literal value, fun outer below => by simp [run, step]⟩

/-- The type of an object without listed properties: a record of anything. -/
theorem reads_openRecord :
    Reads "Record<string, any>" ([], .applied "Record" [.name "string", .name "any"]) :=
  ⟨[.word "Record", .openAngle, .word "string", .comma, .word "any", .closeAngle], rfl,
    fun outer below => by simp [run, step]⟩

/-! ## Signs after and around a type -/

/-- A text that is read ends where a sign begins: what comes after it is scanned on its own. -/
theorem Reads.exists_tokens {text : String} {row : Row} (h : Reads text row) :
    ∃ read, (∀ rest : String, (∀ c ∈ rest.toList.head?, isNameChar c = false) →
        tokens (text ++ rest) = (tokens rest).map (read ++ ·)) ∧
      ∀ outer below, run ⟨.operand, outer, below⟩ read = some ⟨.after row.2, outer ++ row.1, below⟩ := by
  obtain ⟨read, htokens, hrun⟩ := h
  exact ⟨read, fun rest hrest => tokens_append htokens hrest, hrun⟩

/-- Brackets make a list of the operand just before them. -/
theorem Reads.brackets {text : String} {row : Row} (h : Reads text row) :
    Reads (text ++ "[]") (row.1, .array row.2) := by
  obtain ⟨read, htokens, hrun⟩ := h.exists_tokens
  refine ⟨read ++ [.openBracket, .closeBracket], ?_, fun outer below => ?_⟩
  · rw [htokens "[]" (by simp; decide)]
    rfl
  · rw [run_append, hrun]
    simp [run, step]

/-- A type in parentheses is one operand. -/
theorem Reads.parens {text : String} {row : Row} (h : Reads text row) :
    Reads ("(" ++ (text ++ ")")) ([], row.type) := by
  obtain ⟨read, htokens, hrun⟩ := h.exists_tokens
  refine ⟨.openParen :: (read ++ [.closeParen]), ?_, fun outer below => ?_⟩
  · rw [tokens_append_of_scan "(" [.openParen] rfl, htokens ")" (by simp; decide)]
    rfl
  · rw [run, step, Option.bind_some, run_append, hrun]
    simp [run, step, Row.type]

/-- The sign between two operands. -/
def Joint.sign : Joint → Token
  | .bar => .bar
  | .amp => .amp

/-- The sign as it is written, with a blank on either side. -/
def Joint.text : Joint → String
  | .bar => " | "
  | .amp => " & "

theorem scan_jointText (joint : Joint) :
    scan .between (Joint.text joint).toList = some ([Joint.sign joint], .between) := by
  cases joint <;> rfl

/-- A sign between two texts stands between their rows. -/
theorem Reads.append (joint : Joint) {first second : String} {row next : Row} (hfirst : Reads first row)
    (hsecond : Reads second next) :
    Reads (first ++ (Joint.text joint ++ second)) (row.1 ++ (row.2, joint) :: next.1, next.2) := by
  obtain ⟨read, htokens, hrun⟩ := hfirst.exists_tokens
  obtain ⟨after, hafter, hnext⟩ := hsecond
  refine ⟨read ++ Joint.sign joint :: after, ?_, fun outer below => ?_⟩
  · -- the blank before the sign ends the last word of the first text
    have hhead : ∀ c ∈ (Joint.text joint ++ second).toList.head?, isNameChar c = false := by
      cases joint <;> simp [Joint.text] <;> decide
    rw [htokens _ hhead, tokens_append_of_scan _ _ (scan_jointText joint), hafter]
    rfl
  · have hstep : step ⟨.after row.2, outer ++ row.1, below⟩ (Joint.sign joint) =
        some ⟨.operand, outer ++ row.1 ++ [(row.2, joint)], below⟩ := by
      cases joint <;> simp [Joint.sign, step]
    rw [run_append, hrun, Option.bind_some, run, hstep, Option.bind_some, hnext]
    simp

/-- Texts with the same sign between each two give their rows one after the other. -/
theorem Reads.joined (joint : Joint) {first : String} {row : Row} (hfirst : Reads first row) {texts : List String}
    {rows : List Row} (hrest : List.Forall₂ Reads texts rows) :
    Reads ((Joint.text joint).intercalate (first :: texts)) (Row.joined joint row rows) := by
  induction hrest generalizing first row with
  | nil => simpa [Row.joined] using hfirst
  | cons hnext _ ih =>
      rw [String.intercalate_cons_cons, Row.joined, String.append_assoc]
      exact hfirst.append joint (ih hnext)

/-! ## Object types -/

/-- A text is read as a field: a plain name, the mark of a field that may be missing, and a type. -/
def ReadsField (text : String) (field : String × Bool × TypeTree) : Prop :=
  IsWord field.1 ∧ ∃ type row, text = TypeText.signature field.1 field.2.1 type ∧ Reads type row ∧
    row.type = field.2.2

/-- The text of a field leads from where a name is expected to the end of the type. -/
theorem ReadsField.exists_tokens {text : String} {field : String × Bool × TypeTree} (h : ReadsField text field) :
    ∃ read, tokens text = some read ∧ ∀ before chain below, ∃ p t, Chain.close p t = field.2.2 ∧
      run ⟨.field before, chain, below⟩ read =
        some ⟨.after t, p, ⟨.field before field.1 field.2.1, chain⟩ :: below⟩ := by
  obtain ⟨name, required, tree⟩ := field
  obtain ⟨⟨hne, hword⟩, type, row, rfl, ⟨read, htokens, hrun⟩, htype⟩ := h
  have hname : tokens name = some [.word name] :=
    tokens_word hne fun c hc => isNameChar_of_isWordChar (hword c hc)
  cases required with
  | true =>
      refine ⟨.word name :: .colon :: read, ?_, fun before chain below => ⟨row.1, row.2, htype, ?_⟩⟩
      · have hhead : ∀ c ∈ (": " ++ type).toList.head?, isNameChar c = false := by simp; decide
        rw [TypeText.signature, if_pos rfl, String.append_empty, String.append_assoc, tokens_append hname hhead,
          tokens_append_of_scan ": " [.colon] rfl, htokens]
        rfl
      · simp [run, step, hrun]
  | false =>
      refine ⟨.word name :: .question :: .colon :: read, ?_, fun before chain below => ⟨row.1, row.2, htype, ?_⟩⟩
      · have hhead : ∀ c ∈ ("?" ++ (": " ++ type)).toList.head?, isNameChar c = false := by simp; decide
        rw [TypeText.signature, if_neg Bool.false_ne_true, String.append_assoc, String.append_assoc,
          tokens_append hname hhead, tokens_append_of_scan "?" [.question] rfl,
          tokens_append_of_scan ": " [.colon] rfl, htokens]
        rfl
      · simp [run, step, hrun]

/-- The fields of an object type, up to its closing brace. -/
theorem exists_tokens_fields {texts : List String} {fields : List (String × Bool × TypeTree)}
    (h : List.Forall₂ ReadsField texts fields) :
    ∃ read, tokens (";\n  ".intercalate texts ++ "\n\x7d") = some read ∧ ∀ before chain below,
      run ⟨.field before, chain, below⟩ read = some ⟨.after (.object (before ++ fields)), chain, below⟩ := by
  -- the last field is closed by the brace, every other one by a semicolon
  induction h with
  | nil => exact ⟨[.closeBrace], rfl, fun before chain below => by simp [run, step]⟩
  | @cons text field texts fields hfield hfields ih =>
      obtain ⟨read, htokens, hrun⟩ := hfield.exists_tokens
      cases hfields with
      | nil =>
          refine ⟨read ++ [.closeBrace], ?_, fun before chain below => ?_⟩
          · rw [String.intercalate_singleton, tokens_append htokens (by simp; decide)]
            rfl
          · obtain ⟨p, t, hclose, hfirst⟩ := hrun before chain below
            rw [run_append, hfirst]
            simp [run, step, hclose]
      | @cons next nextField others otherFields hnext hothers =>
          obtain ⟨after, hafter, hrest⟩ := ih
          refine ⟨read ++ .semicolon :: after, ?_, fun before chain below => ?_⟩
          · have hhead : ∀ c ∈ (";\n  " ++ (";\n  ".intercalate (next :: others) ++ "\n\x7d")).toList.head?,
                isNameChar c = false := by simp; decide
            rw [String.intercalate_cons_cons, String.append_assoc, String.append_assoc,
              tokens_append htokens hhead, tokens_append_of_scan ";\n  " [.semicolon] rfl, hafter]
            rfl
          · obtain ⟨p, t, hclose, hfirst⟩ := hrun before chain below
            rw [run_append, hfirst, Option.bind_some, run, step, Option.bind_some, hrest, hclose]
            simp

/-- **Object types.**  The fields are read in order, whatever types they have. -/
theorem reads_object {texts : List String} {fields : List (String × Bool × TypeTree)}
    (h : List.Forall₂ ReadsField texts fields) : Reads (TypeText.inlineObject texts) ([], .object fields) := by
  obtain ⟨read, htokens, hrun⟩ := exists_tokens_fields h
  refine ⟨.openBrace :: read, ?_, fun outer below => ?_⟩
  · rw [TypeText.inlineObject, String.append_assoc, tokens_append_of_scan "\x7b\n  " [.openBrace] rfl, htokens]
    rfl
  · simp [run, step, hrun]

end ApiTypes.TypeSyntax
