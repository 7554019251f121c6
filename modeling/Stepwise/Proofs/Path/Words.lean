import Stepwise.Proofs.Path.Translation
import Stepwise.Proofs.Selector.Token

namespace Stepwise.Path

open Selector (Token)

variable {c : Char} {condition : Condition} {conditions : List Condition} {nameTest : NameTest}
  {s : Step} {steps : List Step} {a v : String} {more : List Char}

-- A name that is one word of a selector.
structure WordName (a : String) : Prop where
  valid : isName a.toList = true
  colon : ':' ∉ a.toList

-- A name that a path and a selector read alike: in small letters and without a colon.
structure PlainName (a : String) : Prop where
  valid : isName a.toList = true
  colon : ':' ∉ a.toList
  lower : Text.lowerAscii a.toList = a.toList

theorem PlainName.word (h : PlainName a) : WordName a := ⟨h.valid, h.colon⟩

-- A text that a selector reads as it is between its quotes.
def Unbroken (value : String) : Prop :=
  ∀ c ∈ value.toList, c ≠ '\x00' ∧ Token.isNewline c = false

instance (value : String) : Decidable (Unbroken value) :=
  List.decidableBAll (fun c => c ≠ '\x00' ∧ Token.isNewline c = false) value.toList

def isControl (c : Char) : Bool := c.toNat < 0x20 || (0x7F ≤ c.toNat && c.toNat < 0xA0)

def Uncontrolled (value : String) : Prop := ∀ c ∈ value.toList, isControl c = false

instance (value : String) : Decidable (Uncontrolled value) :=
  List.decidableBAll (fun c => isControl c = false) value.toList

def NameTest.Plain : NameTest → Prop
  | any => True
  | name n => PlainName n

-- A condition that does not count elements.
def Condition.Plain : Condition → Prop
  | position _ => False
  | present a => PlainName a
  | equal a v => PlainName a ∧ Uncontrolled v
  | part a v => PlainName a ∧ Uncontrolled v ∧ v ≠ ""

-- A condition on an attribute that a selector puts to the elements as it is.
def Condition.Clear : Condition → Prop
  | position _ => False
  | present a | equal a _ => PlainName a
  | part a v => PlainName a ∧ v ≠ ""

structure Step.Clear (s : Step) : Prop where
  test : s.test.Plain
  conditions : ∀ c ∈ s.conditions, c.Clear

-- The steps whose selectors mean what they mean. Only elements of one name are counted, and all of
-- these: the position comes first.
inductive Step.Plain (s : Step) : Prop
  | all (htest : s.test.Plain) (hconditions : ∀ c ∈ s.conditions, c.Plain)
  | nth {name : String} {n : Nat} {conditions : List Condition} (htest : s.test = .name name)
    (hname : PlainName name) (hposition : s.conditions = .position n :: conditions) (hlow : 1 ≤ n)
    (hhigh : n < 0x80000000) (hconditions : ∀ c ∈ conditions, c.Plain)

def NameTest.word : NameTest → Token
  | any => .delim '*'
  | name n => .ident n

def Condition.words : Condition → List Token
  | position n =>
    [.colon, .opener (.function "nth-of-type"), .number false (some (Token.counted n : Nat)),
      .closer .round]
  | present a => [.opener .square, .ident a, .closer .square]
  | equal a v => [.opener .square, .ident a, .delim '=', .string v, .closer .square]
  | part a v => [.opener .square, .ident a, .operator .part, .string v, .closer .square]

def Step.words (s : Step) : List Token := s.test.word :: s.conditions.flatMap Condition.words

def Axis.words : Axis → List Token
  | child => [.space, .delim '>', .space]
  | descendant => [.space]

-- The words behind those of the first step.
def laterWords (steps : List Step) : List Token := steps.flatMap fun s => s.axis.words ++ s.words

-- What the words of a step take: its names are words, and its values are texts between quotes.

def NameTest.Readable : NameTest → Prop
  | any => True
  | name n => WordName n

def Condition.Readable : Condition → Prop
  | position _ => True
  | present a => WordName a
  | equal a v | part a v => WordName a ∧ Unbroken v

structure Step.Readable (s : Step) : Prop where
  test : s.test.Readable
  conditions : ∀ c ∈ s.conditions, c.Readable

-- Of a value it is enough that it stands on one line; the character of number zero is replaced.

def OneLine (value : String) : Prop := ∀ c ∈ value.toList, Token.isNewline c = false

instance (value : String) : Decidable (OneLine value) :=
  List.decidableBAll (fun c => Token.isNewline c = false) value.toList

def Condition.Whole : Condition → Prop
  | position _ => True
  | present a => WordName a
  | equal a v | part a v => WordName a ∧ OneLine v

structure Step.Whole (s : Step) : Prop where
  test : s.test.Readable
  conditions : ∀ c ∈ s.conditions, c.Whole

def shown (value : String) : String := String.ofList (value.toList.map Token.shownChar)

def Condition.shown : Condition → Condition
  | position n => .position n
  | present a => .present a
  | equal a v => .equal a (Path.shown v)
  | part a v => .part a (Path.shown v)

def Step.shown (s : Step) : Step := { s with conditions := s.conditions.map Condition.shown }

theorem Unbroken.oneLine (h : Unbroken v) : OneLine v := fun c hc => (h c hc).2

theorem Unbroken.shown_eq (h : Unbroken v) : shown v = v := by
  have hchars : v.toList.map Token.shownChar = v.toList :=
    (List.map_congr_left fun c hc => if_neg (h c hc).1).trans (List.map_id _)
  rw [shown, hchars, String.ofList_toList]

theorem Condition.Readable.whole (h : condition.Readable) : condition.Whole := by
  cases condition with
  | position n => exact trivial
  | present a => exact h
  | equal a v => exact ⟨h.1, h.2.oneLine⟩
  | part a v => exact ⟨h.1, h.2.oneLine⟩

theorem Condition.Readable.shown_eq (h : condition.Readable) : condition.shown = condition := by
  cases condition with
  | position n => rfl
  | present a => rfl
  | equal a v => rw [shown, h.2.shown_eq]
  | part a v => rw [shown, h.2.shown_eq]

theorem Step.Readable.whole (h : s.Readable) : s.Whole :=
  ⟨h.test, fun c hc => (h.conditions c hc).whole⟩

theorem Step.Readable.shown_eq (h : s.Readable) : s.shown = s := by
  have hconditions : s.conditions.map Condition.shown = s.conditions :=
    (List.map_congr_left fun c hc => (h.conditions c hc).shown_eq).trans (List.map_id _)
  rw [shown, hconditions]

theorem Uncontrolled.unbroken (h : Uncontrolled v) : Unbroken v := by
  intro c hc
  have hcontrol := h c hc
  refine ⟨?_, Bool.eq_false_iff.2 fun hline => ?_⟩
  · rintro rfl
    cases hcontrol
  · simp only [Token.isNewline, Bool.or_eq_true, beq_iff_eq] at hline
    rcases hline with (rfl | rfl) | rfl <;> cases hcontrol

theorem NameTest.Plain.readable (h : nameTest.Plain) : nameTest.Readable := by
  cases nameTest with
  | any => exact trivial
  | name n => exact PlainName.word h

theorem Condition.Plain.readable (h : condition.Plain) : condition.Readable := by
  cases condition with
  | position n => exact h.elim
  | present a => exact PlainName.word h
  | equal a v => exact ⟨h.1.word, h.2.unbroken⟩
  | part a v => exact ⟨h.1.word, h.2.1.unbroken⟩

theorem Condition.Plain.clear (h : condition.Plain) : condition.Clear := by
  cases condition with
  | position n => exact h.elim
  | present a => exact h
  | equal a v => exact h.1
  | part a v => exact ⟨h.1, h.2.2⟩

theorem Step.Plain.test (h : s.Plain) : s.test.Plain := by
  cases h with
  | all htest _ => exact htest
  | nth htest hname _ _ _ _ => rw [htest]; exact hname

theorem Step.Plain.of_mem_conditions (h : s.Plain) :
    ∀ c ∈ s.conditions, c.Plain ∨ ∃ n, c = .position n := by
  cases h with
  | all _ hconditions => exact fun c hc => .inl (hconditions c hc)
  | nth _ _ hposition _ _ hconditions =>
    rw [hposition, List.forall_mem_cons]
    exact ⟨.inr ⟨_, rfl⟩, fun c hc => .inl (hconditions c hc)⟩

theorem Step.Plain.clear_of_mem (h : s.Plain) :
    ∀ c ∈ s.conditions, c.Clear ∨ ∃ n, c = .position n := fun c hc =>
  (h.of_mem_conditions c hc).imp_left Condition.Plain.clear

theorem Step.Plain.readable (h : s.Plain) : s.Readable := by
  refine ⟨h.test.readable, fun c hc => ?_⟩
  rcases h.of_mem_conditions c hc with hplain | ⟨n, rfl⟩
  · exact hplain.readable
  · exact trivial

theorem all_attribute (h : WordName a) (more : List Char)
    (hname : ∀ c ∈ more.head?, c ∈ [']', '=', '*']) :
    Token.all ('[' :: a.toList ++ more) = .opener .square :: .ident a :: Token.all more := by
  have hopen : Token.next '[' (a.toList ++ more) = (some (.opener .square), a.toList ++ more) := rfl
  have hends : Token.EndsName more := by
    intro c hc
    have hmark := hname c hc
    simp only [List.mem_cons, List.not_mem_nil, or_false] at hmark
    rcases hmark with rfl | rfl | rfl <;> decide
  have hparen : more.head? ≠ some '(' := by
    intro hhead
    exact absurd (hname '(' hhead) (by decide)
  rw [List.cons_append, Token.all_of_next hopen, Token.all_name h.valid h.colon hends hparen,
    String.ofList_toList]

theorem all_value (h : OneLine v) (more : List Char) :
    Token.all (quoted v ++ ']' :: more) =
      .string (shown v) :: .closer .square :: Token.all more := by
  have hclose : Token.next ']' more = (some (.closer .square), more) := rfl
  have htext : quoted v ++ ']' :: more = '"' :: escape v.toList ++ '"' :: (']' :: more) := by
    simp [quoted]
  rw [htext, Token.all_quoted h, Token.all_of_next hclose]
  rfl

theorem Condition.Whole.all_eq (h : condition.Whole) (more : List Char) :
    Token.all (condition.selectorText ++ more) = condition.shown.words ++ Token.all more := by
  unfold selectorText words
  cases condition with
  | position n =>
    have htext : ":nth-of-type(".toList ++ Nat.toDigits 10 n ++ [')'] ++ more =
        ":nth-of-type(".toList ++ (Nat.toDigits 10 n ++ ')' :: more) := by
      simp
    exact (congrArg Token.all htext).trans
      ((Token.all_nthOfType _).trans (congrArg _ (congrArg _ (Token.all_number n more))))
  | present a =>
    have hclose : Token.next ']' more = (some (.closer .square), more) := rfl
    have hword := all_attribute h (']' :: more) (by simp)
    rw [Token.all_of_next hclose] at hword
    simpa [Condition.shown] using hword
  | equal a v =>
    have hequal : Token.next '=' (quoted v ++ ']' :: more) =
        (some (.delim '='), quoted v ++ ']' :: more) := rfl
    have hword := all_attribute h.1 ('=' :: (quoted v ++ ']' :: more)) (by simp)
    rw [Token.all_of_next hequal, all_value h.2] at hword
    simpa [Condition.shown] using hword
  | part a v =>
    have hpart : Token.next '*' ('=' :: (quoted v ++ ']' :: more)) =
        (some (.operator .part), quoted v ++ ']' :: more) := rfl
    have hword := all_attribute h.1 ('*' :: '=' :: (quoted v ++ ']' :: more)) (by simp)
    rw [Token.all_of_next hpart, all_value h.2] at hword
    simpa [Condition.shown] using hword

theorem all_conditions (h : ∀ c ∈ conditions, c.Whole) (more : List Char) :
    Token.all (conditions.flatMap Condition.selectorText ++ more) =
      (conditions.map Condition.shown).flatMap Condition.words ++ Token.all more := by
  induction conditions with
  | nil => rfl
  | cons c conditions ih =>
    rw [List.forall_mem_cons] at h
    rw [List.flatMap_cons, List.append_assoc, h.1.all_eq, ih h.2, List.map_cons, List.flatMap_cons,
      List.append_assoc]

theorem head_selectorText (condition : Condition) : ∃ text c,
    condition.selectorText = c :: text ∧ c ∈ [':', '['] := by
  unfold Condition.selectorText
  cases condition with
  | position n => exact ⟨_, ':', rfl, by decide⟩
  | present a => exact ⟨_, '[', rfl, by decide⟩
  | equal a v => exact ⟨_, '[', rfl, by decide⟩
  | part a v => exact ⟨_, '[', rfl, by decide⟩

-- The conditions of one element are followed by a combinator or by nothing.
theorem head_conditions (hmore : ∀ c ∈ more.head?, c = ' ') :
    ∀ c ∈ (conditions.flatMap Condition.selectorText ++ more).head?, c ∈ [':', '[', ' '] := by
  cases conditions with
  | nil =>
    intro c hc
    rw [hmore c hc]
    decide
  | cons condition conditions =>
    obtain ⟨text, d, htext, hd⟩ := head_selectorText condition
    intro c hc
    rw [List.flatMap_cons, htext] at hc
    cases hc
    simp only [List.mem_cons, List.not_mem_nil, or_false] at hd
    rcases hd with rfl | rfl <;> decide

theorem NameTest.Readable.all_eq (h : nameTest.Readable) (hmore : ∀ c ∈ more.head?, c ∈ [':', '[', ' ']) :
    Token.all (nameTest.selectorText ++ more) = nameTest.word :: Token.all more := by
  cases nameTest with
  | any =>
    have hstar : Token.next '*' more = (some (.delim '*'), more) := by
      have hread : Token.readOperator '*' .part more = (.delim '*', more) := by
        unfold Token.readOperator
        split
        · exact absurd (hmore '=' rfl) (by decide)
        · rfl
      have hnext : Token.next '*' more =
          (some (Token.readOperator '*' .part more).1, (Token.readOperator '*' .part more).2) := rfl
      rw [hnext, hread]
    exact Token.all_of_next hstar
  | name n =>
    have hends : Token.EndsName more := by
      intro c hc
      have hmark := hmore c hc
      simp only [List.mem_cons, List.not_mem_nil, or_false] at hmark
      rcases hmark with rfl | rfl | rfl <;> decide
    have hparen : more.head? ≠ some '(' := by
      intro hhead
      exact absurd (hmore '(' hhead) (by decide)
    have hname := Token.all_name h.valid h.colon hends hparen
    rw [String.ofList_toList] at hname
    exact hname

theorem Step.Whole.all_eq (h : s.Whole) (hmore : ∀ c ∈ more.head?, c = ' ') :
    Token.all (s.compoundText ++ more) = s.shown.words ++ Token.all more := by
  rw [compoundText, List.append_assoc, h.test.all_eq (head_conditions hmore),
    all_conditions h.conditions]
  rfl

theorem NameTest.Readable.proper (h : nameTest.Readable) : nameTest.Proper := by
  cases nameTest with
  | any => exact trivial
  | name n => exact h.valid

theorem isAsciiBlank_of_isNamePart (h : isNamePart c = true) : Text.isAsciiBlank c = false := by
  refine Bool.eq_false_iff.2 fun hblank => ?_
  simp only [Text.isAsciiBlank, Bool.or_eq_true, beq_iff_eq] at hblank
  rcases hblank with (((rfl | rfl) | rfl) | rfl) | rfl <;> cases h

theorem NameTest.Proper.dropWhile_eq (h : nameTest.Proper) (more : List Char) :
    (nameTest.selectorText ++ more).dropWhile Text.isAsciiBlank = nameTest.selectorText ++ more := by
  obtain ⟨c, front, hfront⟩ := List.exists_cons_of_ne_nil h.written_ne_nil
  have hblank : Text.isAsciiBlank c = false := by
    rcases h.written_cases (c := c) (by simp [hfront]) with rfl | hpart
    · decide
    · exact isAsciiBlank_of_isNamePart hpart
  have htext : nameTest.selectorText = c :: front := hfront
  simp [htext, hblank]

-- Behind a combinator stands an element, and no blank.
theorem NameTest.Proper.all_axis (h : nameTest.Proper) (axis : Axis) (more : List Char) :
    Token.all (axis.combinatorText ++ (nameTest.selectorText ++ more)) =
      axis.words ++ Token.all (nameTest.selectorText ++ more) := by
  have hspace : Token.next ' ' (nameTest.selectorText ++ more) =
      (some .space, nameTest.selectorText ++ more) := by
    have hnext : Token.next ' ' (nameTest.selectorText ++ more) =
        (some .space, (nameTest.selectorText ++ more).dropWhile Text.isAsciiBlank) := rfl
    rw [hnext, h.dropWhile_eq]
  cases axis with
  | descendant => exact Token.all_of_next hspace
  | child =>
    have hfirst : Token.next ' ' ('>' :: ' ' :: (nameTest.selectorText ++ more)) =
        (some .space, '>' :: ' ' :: (nameTest.selectorText ++ more)) := rfl
    have hsign : Token.next '>' (' ' :: (nameTest.selectorText ++ more)) =
        (some (.delim '>'), ' ' :: (nameTest.selectorText ++ more)) := rfl
    change Token.all (' ' :: '>' :: ' ' :: (nameTest.selectorText ++ more)) =
      .space :: .delim '>' :: .space :: Token.all (nameTest.selectorText ++ more)
    rw [Token.all_of_next hfirst, Token.all_of_next hsign, Token.all_of_next hspace]

-- The text of the steps behind the first one.
def laterText (steps : List Step) : List Char :=
  steps.flatMap fun s => s.axis.combinatorText ++ s.compoundText

theorem laterText_cons (s : Step) (steps : List Step) : laterText (s :: steps) =
    s.axis.combinatorText ++ (s.compoundText ++ laterText steps) := by
  rw [laterText, List.flatMap_cons, List.append_assoc]
  rfl

theorem laterText_append (steps later : List Step) :
    laterText (steps ++ later) = laterText steps ++ laterText later := List.flatMap_append

theorem head_laterText_append (steps : List Step) (hmore : ∀ c ∈ more.head?, c = ' ') :
    ∀ c ∈ (laterText steps ++ more).head?, c = ' ' := by
  cases steps with
  | nil => exact hmore
  | cons s steps =>
    intro c hc
    rw [laterText_cons] at hc
    cases haxis : s.axis <;> rw [haxis] at hc <;> cases hc <;> rfl

theorem head_laterText (steps : List Step) : ∀ c ∈ (laterText steps).head?, c = ' ' := by
  have hend : ∀ c ∈ ([] : List Char).head?, c = ' ' := by simp
  simpa using head_laterText_append steps hend

theorem Step.all_axis (h : s.test.Proper) (more : List Char) :
    Token.all (s.axis.combinatorText ++ (s.compoundText ++ more)) =
      s.axis.words ++ Token.all (s.compoundText ++ more) := by
  rw [compoundText, List.append_assoc, h.all_axis]

theorem all_steps (h : ∀ s ∈ steps, s.Whole) (hmore : ∀ c ∈ more.head?, c = ' ') :
    Token.all (laterText steps ++ more) =
      laterWords (steps.map Step.shown) ++ Token.all more := by
  induction steps with
  | nil => rfl
  | cons s steps ih =>
    rw [List.forall_mem_cons] at h
    rw [laterText_cons, List.append_assoc, List.append_assoc, Step.all_axis h.1.test.proper,
      h.1.all_eq (head_laterText_append steps hmore), ih h.2]
    simp [laterWords, Step.shown]

end Stepwise.Path
