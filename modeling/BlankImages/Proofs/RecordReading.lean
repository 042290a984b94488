import BlankImages.Proofs.QuotedReading
import BlankImages.Text.Record
import Mathlib.Data.List.Forall2

/-!
# Telling records apart

The text of a record gives its fields away if the text of each field does, and
a field must do so with the record going on behind it: what counts is not where
a field ends but that no other field could stand in its place.  A field of
letters and digits ends where the record goes on, and a quoted field where its
closing quote stands.
-/

namespace BlankImages

namespace FieldText

/-- The characters with which a record goes on behind a field: a comma, or the
space before the closing bracket. -/
def isSeparator (char : Char) : Bool :=
  char == ',' || char == ' '

def GoesOn (behind : String) : Prop :=
  ∃ char tail, isSeparator char = true ∧ behind.toList = char :: tail

/-- Whether one of two fields cannot be taken for the other where a record shows
them by a text. -/
def Distinguishes (text : FieldText → String) (left right : FieldText) : Prop :=
  ∀ leftBehind rightBehind, GoesOn leftBehind → GoesOn rightBehind →
    text left ++ leftBehind = text right ++ rightBehind → left = right

def IsBare (text : String) : Prop :=
  ∀ char ∈ text.toList, isSeparator char = false

instance (text : String) : Decidable (IsBare text) :=
  List.decidableBAll _ text.toList

/-- A bare text ends where the record goes on. -/
theorem takeWhile_append_of_isBare {text behind : String}
    (bare : IsBare text) (goesOn : GoesOn behind) :
    (text ++ behind).toList.takeWhile (!isSeparator ·) = text.toList := by
  obtain ⟨char, tail, separator, begins⟩ := goesOn
  have kept : ∀ char ∈ text.toList, (!isSeparator char) = true := by
    intro char member
    rw [bare char member]
    rfl
  have stops : (char :: tail).takeWhile (!isSeparator ·) = [] := by
    rw [List.takeWhile_cons, separator]
    rfl
  rw [String.toList_append, List.takeWhile_append_of_pos kept, begins, stops,
    List.append_nil]

/-- Two fields that cannot be taken for each other in either text of a record. -/
structure ToldApart (left right : FieldText) : Prop where
  compact : Distinguishes FieldText.compact left right
  pretty : Distinguishes FieldText.pretty left right

theorem toldApart_plain {left right : String}
    (eq_of_append :
      ∀ leftBehind rightBehind, GoesOn leftBehind → GoesOn rightBehind →
        left ++ leftBehind = right ++ rightBehind → left = right) :
    ToldApart (.plain left) (.plain right) := by
  have distinguishes (text : FieldText → String)
      (shown : ∀ own, text (.plain own) = own) :
      Distinguishes text (.plain left) (.plain right) := by
    intro leftBehind rightBehind leftGoesOn rightGoesOn same
    rw [shown, shown] at same
    exact
      congrArg FieldText.plain
        (eq_of_append leftBehind rightBehind leftGoesOn rightGoesOn same)
  exact
    { compact := distinguishes FieldText.compact fun _ => rfl
      pretty := distinguishes FieldText.pretty fun _ => rfl }

theorem toldApart_bare {left right : String}
    (leftBare : IsBare left) (rightBare : IsBare right) :
    ToldApart (.plain left) (.plain right) := by
  refine toldApart_plain ?_
  intro leftBehind rightBehind leftGoesOn rightGoesOn same
  have leftText := takeWhile_append_of_isBare leftBare leftGoesOn
  have rightText := takeWhile_append_of_isBare rightBare rightGoesOn
  rw [same, rightText] at leftText
  exact (String.toList_inj.mp leftText).symm

theorem toldApart_quoted (left right : List UInt8) :
    ToldApart (.plain (Quoted.write left)) (.plain (Quoted.write right)) := by
  refine toldApart_plain ?_
  intro leftBehind rightBehind _ _ same
  -- Nothing about the texts behind is needed: the closing quotes are found
  -- without them.
  have sameChars := congrArg String.toList same
  rw [String.toList_append, String.toList_append] at sameChars
  have bytesEq : left = right := (Quoted.write_append_inj sameChars).1
  rw [bytesEq]

theorem distinguishes_of_head?_ne {text : FieldText → String}
    {left right : FieldText} {leftHead rightHead : Char}
    (differ : leftHead ≠ rightHead)
    (leftBegins : (text left).toList.head? = some leftHead)
    (rightBegins : (text right).toList.head? = some rightHead) :
    Distinguishes text left right := by
  intro leftBehind rightBehind _ _ same
  have sameHead := congrArg (fun whole => whole.toList.head?) same
  simp only [String.toList_append, List.head?_append, leftBegins, rightBegins,
    Option.some_or, Option.some.injEq] at sameHead
  exact absurd sameHead differ

theorem toldApart_of_eq {left right : FieldText} (same : left = right) :
    ToldApart left right :=
  ⟨fun _ _ _ _ _ => same, fun _ _ _ _ _ => same⟩

theorem toldApart_slot {left right : Option String}
    (sameContent : ∀ first ∈ left, ∀ second ∈ right, first = second) :
    ToldApart (.slot left) (.slot right) := by
  have emptyHead : "None".toList.head? = some 'N' :=
    rfl
  have compactHead (content : String) :
      (FieldText.compact (.slot (some content))).toList.head? = some 'S' := by
    simp [FieldText.compact]
  have prettyHead (content : String) :
      (FieldText.pretty (.slot (some content))).toList.head? = some 'S' := by
    simp [FieldText.pretty]
  cases left with
  | none =>
      cases right with
      | none =>
          exact toldApart_of_eq rfl
      | some content =>
          exact
            ⟨distinguishes_of_head?_ne (by decide) emptyHead
                (compactHead content),
              distinguishes_of_head?_ne (by decide) emptyHead
                (prettyHead content)⟩
  | some content =>
      cases right with
      | none =>
          exact
            ⟨distinguishes_of_head?_ne (by decide) (compactHead content)
                emptyHead,
              distinguishes_of_head?_ne (by decide) (prettyHead content)
                emptyHead⟩
      | some other =>
          exact toldApart_of_eq (by rw [sameContent content rfl other rfl])

end FieldText

namespace Record

/-- Two fields with one label that cannot be taken for each other. -/
structure Comparable (left right : String × FieldText) : Prop where
  label : left.1 = right.1
  toldApart : FieldText.ToldApart left.2 right.2

/-- Where two records agree from a label on, the fields there are the same, and
the records agree behind them. -/
theorem eq_of_labelled {text : FieldText → String}
    {left right : String × FieldText} {leftBehind rightBehind : String}
    (label : left.1 = right.1)
    (distinguishes : FieldText.Distinguishes text left.2 right.2)
    (leftGoesOn : FieldText.GoesOn leftBehind)
    (rightGoesOn : FieldText.GoesOn rightBehind)
    (same :
      left.1 ++ (": " ++ (text left.2 ++ leftBehind)) =
        right.1 ++ (": " ++ (text right.2 ++ rightBehind))) :
    left = right ∧ leftBehind = rightBehind := by
  rw [label, String.append_right_inj, String.append_right_inj] at same
  have fieldEq : left.2 = right.2 :=
    distinguishes leftBehind rightBehind leftGoesOn rightGoesOn same
  rw [fieldEq, String.append_right_inj] at same
  exact ⟨Prod.ext label fieldEq, same⟩

/-- What stands behind a field of a text on one line. -/
def compactBehind : List (String × FieldText) → String
  | [] => " \x7d"
  | rest => ", " ++ (compactFields rest ++ " \x7d")

theorem compactFields_cons_append (field : String × FieldText)
    (rest : List (String × FieldText)) :
    compactFields (field :: rest) ++ " \x7d" =
      field.1 ++ (": " ++ (field.2.compact ++ compactBehind rest)) := by
  cases rest with
  | nil =>
      simp only [compactFields, compactBehind, String.append_assoc]
  | cons next others =>
      simp only [compactFields, compactBehind, String.append_assoc]

theorem goesOn_compactBehind (rest : List (String × FieldText)) :
    FieldText.GoesOn (compactBehind rest) := by
  cases rest with
  | nil =>
      exact ⟨' ', ['\x7d'], rfl, rfl⟩
  | cons next others =>
      exact
        ⟨',', ' ' :: (compactFields (next :: others) ++ " \x7d").toList, rfl,
          String.toList_append⟩

theorem compactBehind_inj {left right : List (String × FieldText)}
    (sameLength : left.length = right.length)
    (same : compactBehind left = compactBehind right) :
    compactFields left ++ " \x7d" = compactFields right ++ " \x7d" := by
  cases left with
  | nil =>
      rw [List.eq_nil_of_length_eq_zero sameLength.symm]
  | cons leftFirst leftRest =>
      cases right with
      | nil =>
          cases sameLength
      | cons rightFirst rightRest =>
          exact (String.append_right_inj ", ").mp same

theorem compactFields_inj {left right : List (String × FieldText)}
    (comparable : List.Forall₂ Comparable left right)
    (same : compactFields left ++ " \x7d" = compactFields right ++ " \x7d") :
    left = right := by
  induction comparable with
  | nil =>
      rfl
  | @cons leftField rightField leftRest rightRest first rest
      inductionHypothesis =>
      rw [compactFields_cons_append, compactFields_cons_append] at same
      obtain ⟨fieldEq, sameBehind⟩ :=
        eq_of_labelled first.label first.toldApart.compact
          (goesOn_compactBehind leftRest) (goesOn_compactBehind rightRest) same
      have restEq : leftRest = rightRest :=
        inductionHypothesis (compactBehind_inj rest.length_eq sameBehind)
      rw [fieldEq, restEq]

theorem prettyFields_cons_append (field : String × FieldText)
    (rest : List (String × FieldText)) :
    prettyFields (field :: rest) ++ "\x7d" =
      "    " ++ (field.1 ++ (": " ++ (field.2.pretty ++
        (",\n" ++ (prettyFields rest ++ "\x7d"))))) := by
  simp only [prettyFields, String.append_assoc]

theorem goesOn_line (behind : String) : FieldText.GoesOn (",\n" ++ behind) :=
  ⟨',', '\n' :: behind.toList, rfl, String.toList_append⟩

theorem prettyFields_inj {left right : List (String × FieldText)}
    (comparable : List.Forall₂ Comparable left right)
    (same : prettyFields left ++ "\x7d" = prettyFields right ++ "\x7d") :
    left = right := by
  induction comparable with
  | nil =>
      rfl
  | @cons leftField rightField leftRest rightRest first rest
      inductionHypothesis =>
      rw [prettyFields_cons_append, prettyFields_cons_append,
        String.append_right_inj] at same
      obtain ⟨fieldEq, sameBehind⟩ :=
        eq_of_labelled first.label first.toldApart.pretty (goesOn_line _)
          (goesOn_line _) same
      have restEq : leftRest = rightRest :=
        inductionHypothesis ((String.append_right_inj _).mp sameBehind)
      rw [fieldEq, restEq]

/-- Records of one kind: they have one name and, in order, the same labels, and
no field can be taken for the field at the same place. -/
structure SameKind (left right : Record) : Prop where
  name : left.name = right.name
  fields : List.Forall₂ Comparable left.fields right.fields

namespace SameKind

variable {left right : Record}

theorem compact_eq_iff (sameKind : SameKind left right) :
    left.compact = right.compact ↔ left.fields = right.fields := by
  constructor
  · intro same
    simp only [Record.compact, sameKind.name, String.append_assoc,
      String.append_right_inj] at same
    exact compactFields_inj sameKind.fields same
  · intro same
    rw [Record.compact, Record.compact, sameKind.name, same]

theorem pretty_eq_iff (sameKind : SameKind left right) :
    left.pretty = right.pretty ↔ left.fields = right.fields := by
  constructor
  · intro same
    simp only [Record.pretty, sameKind.name, String.append_assoc,
      String.append_right_inj] at same
    exact prettyFields_inj sameKind.fields same
  · intro same
    rw [Record.pretty, Record.pretty, sameKind.name, same]

end SameKind

/-! ## Lines -/

def newlineCount (text : String) : Nat :=
  text.toList.count '\n'

theorem newlineCount_append (first second : String) :
    newlineCount (first ++ second) =
      newlineCount first + newlineCount second := by
  rw [newlineCount, String.toList_append, List.count_append]
  rfl

def lineCount (text : String) : Nat :=
  newlineCount text + 1

/-- How many lines a field takes among the lines of its record, if none of its
own texts ends a line. -/
def fieldLines : FieldText → Nat
  | .slot (some _) => 3
  | _ => 1

def fieldsLines : List (String × FieldText) → Nat
  | [] => 0
  | field :: rest => fieldLines field.2 + fieldsLines rest

/-- Whether neither the label nor the text of a field ends a line. -/
structure OneLine (field : String × FieldText) : Prop where
  label : newlineCount field.1 = 0
  plain : ∀ text, field.2 = .plain text → newlineCount text = 0
  content : ∀ text, field.2 = .slot (some text) → newlineCount text = 0

theorem newlineCount_field {field : String × FieldText}
    (oneLine : OneLine field) :
    newlineCount field.2.pretty + 1 = fieldLines field.2 := by
  obtain ⟨label, shown⟩ := field
  cases shown with
  | plain text =>
      exact congrArg (· + 1) (oneLine.plain text rfl)
  | slot content =>
      cases content with
      | none =>
          have noNewline : newlineCount "None" = 0 := rfl
          exact congrArg (· + 1) noNewline
      | some text =>
          have noNewline := oneLine.content text rfl
          simp only [FieldText.pretty, newlineCount_append, noNewline]
          rfl

theorem newlineCount_prettyFields {fields : List (String × FieldText)}
    (oneLine : ∀ field ∈ fields, OneLine field) :
    newlineCount (prettyFields fields) = fieldsLines fields := by
  induction fields with
  | nil =>
      rfl
  | cons first rest inductionHypothesis =>
      obtain ⟨firstOneLine, restOneLine⟩ := List.forall_mem_cons.mp oneLine
      have indent : newlineCount "    " = 0 := rfl
      have colon : newlineCount ": " = 0 := rfl
      have ending : newlineCount ",\n" = 1 := rfl
      have fieldCount := newlineCount_field firstOneLine
      have restCount := inductionHypothesis restOneLine
      simp only [prettyFields, newlineCount_append, firstOneLine.label, indent,
        colon, ending, fieldsLines]
      omega

/-- The first line of a pretty text holds the name and the last one the closing
bracket. -/
theorem lineCount_pretty {record : Record}
    (nameOneLine : newlineCount record.name = 0)
    (oneLine : ∀ field ∈ record.fields, OneLine field) :
    lineCount record.pretty = 2 + fieldsLines record.fields := by
  have opening : newlineCount " \x7b\n" = 1 := rfl
  have closing : newlineCount "\x7d" = 0 := rfl
  simp only [lineCount, Record.pretty, newlineCount_append, nameOneLine, opening,
    closing, newlineCount_prettyFields oneLine]
  omega

end Record

end BlankImages
