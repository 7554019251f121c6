import Stepwise.Proofs.Path.Reading

namespace Stepwise.Path

variable {c : Char} {condition : Condition} {conditions : List Condition} {s : Step}
  {steps : List Step} {ending : Ending}

-- Positions start at one and fit in a machine word. A value that holds both quotes cannot be written.
def Condition.Grammatical : Condition → Prop
  | position n => 1 ≤ n ∧ n < 0x10000000000000000
  | present a => isName a.toList = true
  | equal a v | part a v => isName a.toList = true ∧ ¬ ('\'' ∈ v.toList ∧ '"' ∈ v.toList)

instance (condition : Condition) : Decidable condition.Grammatical :=
  match condition with
  | .position n => inferInstanceAs (Decidable (1 ≤ n ∧ n < 0x10000000000000000))
  | .present a => inferInstanceAs (Decidable (isName a.toList = true))
  | .equal a v | .part a v =>
    inferInstanceAs (Decidable (isName a.toList = true ∧ ¬ ('\'' ∈ v.toList ∧ '"' ∈ v.toList)))

structure Step.Grammatical (s : Step) : Prop where
  test : s.test.Proper
  conditions : ∀ c ∈ s.conditions, c.Grammatical

instance (s : Step) : Decidable s.Grammatical :=
  decidable_of_iff (s.test.Proper ∧ ∀ c ∈ s.conditions, c.Grammatical)
    ⟨fun h => ⟨h.1, h.2⟩, fun h => ⟨h.test, h.conditions⟩⟩

-- A value is written between two quotes that it does not hold.
theorem quote_eq {v : List Char} (h : ¬ ('\'' ∈ v ∧ '"' ∈ v)) :
    ∃ q, isQuote q = true ∧ q ∉ v ∧ quote v = q :: v ++ [q] := by
  by_cases hsingle : '\'' ∈ v
  · exact ⟨'"', by decide, fun hdouble => h ⟨hsingle, hdouble⟩, by rw [quote, if_pos hsingle]⟩
  · exact ⟨'\'', by decide, hsingle, by rw [quote, if_neg hsingle]⟩

theorem Condition.Grammatical.spelled (h : condition.Grammatical) :
    ∃ inner, condition.Spelled inner ∧ condition.written = '[' :: inner ++ [']'] := by
  cases condition with
  | position n => exact ⟨_, .position h.1 h.2, rfl⟩
  | present a => exact ⟨_, .present h, rfl⟩
  | equal a v =>
    obtain ⟨q, hq, hv, hquote⟩ := quote_eq h.2
    exact ⟨_, .equal h.1 hq hv, by unfold written; simp [hquote]⟩
  | part a v =>
    obtain ⟨q, hq, hv, hquote⟩ := quote_eq h.2
    exact ⟨_, .part h.1 hq hv, by unfold written; simp [hquote]⟩

theorem bracketed_written (h : ∀ c ∈ conditions, c.Grammatical) :
    Bracketed conditions (conditions.flatMap Condition.written) := by
  induction conditions with
  | nil => exact .nil
  | cons c conditions ih =>
    rw [List.forall_mem_cons] at h
    obtain ⟨inner, hinner, hwritten⟩ := h.1.spelled
    have htext := Bracketed.cons hinner (ih h.2)
    rw [List.flatMap_cons, hwritten]
    simpa using htext

theorem spelled_written (h : ∀ s ∈ steps, s.Grammatical) (hending : ending.Proper) :
    Spelled ending steps (steps.flatMap Step.written ++ ending.written) := by
  induction steps with
  | nil => exact .ending hending
  | cons s steps ih =>
    rw [List.forall_mem_cons] at h
    have hbody : s.Spelled (s.test.written ++ s.conditions.flatMap Condition.written) :=
      .intro h.1.test (bracketed_written h.1.conditions)
    have htext := Spelled.step hbody (ih h.2)
    simpa [Step.written] using htext

-- The selector that a path stands for, part by part.

def escaped (v : String) : String :=
  String.ofList (v.toList.flatMap fun c => if c = '\\' ∨ c = '"' then ['\\', c] else [c])

def Condition.css : Condition → String
  | position n => ":nth-of-type(" ++ toString n ++ ")"
  | present a => "[" ++ a ++ "]"
  | equal a v => "[" ++ a ++ "=\"" ++ escaped v ++ "\"]"
  | part a v => "[" ++ a ++ "*=\"" ++ escaped v ++ "\"]"

def NameTest.css : NameTest → String
  | any => "*"
  | name n => n

def Step.css (s : Step) : String := s.test.css ++ String.join (s.conditions.map Condition.css)

def Axis.css : Axis → String
  | child => " > "
  | descendant => " "

def css : List Step → String
  | [] => ""
  | first :: rest => first.css ++ String.join (rest.map fun s => s.axis.css ++ s.css)

theorem escape_eq_flatMap (v : List Char) :
    escape v = v.flatMap fun c => if c = '\\' ∨ c = '"' then ['\\', c] else [c] := by
  induction v with
  | nil => rfl
  | cons c v ih =>
    rw [escape, ih, List.flatMap_cons]
    split <;> rfl

theorem Condition.toList_css (c : Condition) : c.css.toList = c.selectorText := by
  unfold css selectorText
  cases c with
  | position n => simp
  | present a => simp
  | equal a v => simp [quoted, escaped, escape_eq_flatMap]
  | part a v => simp [quoted, escaped, escape_eq_flatMap]

theorem Step.toList_css (s : Step) : s.css.toList = s.compoundText := by
  have htest : s.test.css.toList = s.test.selectorText := by cases s.test <;> rfl
  rw [css, String.toList_append, htest, String.toList_join, List.flatMap_map, compoundText]
  simp only [Condition.toList_css]

theorem toList_css (p : Path) : (css p.steps).toList = p.selectorText := by
  have haxis (axis : Axis) : axis.css.toList = axis.combinatorText := by cases axis <;> rfl
  rw [selectorText]
  cases p.steps with
  | nil => rfl
  | cons first rest =>
    simp only [css, String.toList_append, String.toList_join, List.flatMap_map, Step.toList_css, haxis]

-- A path that is written after the grammar is read, as its own steps. It is looked for as the
-- selector of these steps, and takes an attribute just when it ends in one.
theorem read_grammatical (hne : steps ≠ []) (hsteps : ∀ s ∈ steps, s.Grammatical)
    (hending : ending.Proper) :
    ∃ path, read (steps.flatMap Step.written ++ ending.written) = .ok path ∧ path.steps = steps ∧
      String.ofList path.selectorText = css steps ∧
      ∀ a, path.target = .attr a ↔ ∃ axis, ending = .attr axis a := by
  have hread := (spelled_written hsteps hending).read_eq hne
  refine ⟨⟨steps, ending.target⟩, hread, rfl, ?_, fun a => ?_⟩
  · rw [← toList_css, String.ofList_toList]
  · cases ending with
    | element => simp [Ending.target]
    | text axis => simp [Ending.target]
    | attr axis b => simp [Ending.target]

-- Values that hold slashes, brackets, a comma and quotes.
def quotedLink : List Step :=
  [⟨.descendant, .name "a", [.equal "href" "/x]/\"y\\", .part "title" "it's, [1]", .position 3]⟩,
   ⟨.child, .any, []⟩]

theorem read_grammatical_quotedLink :
    quotedLink ≠ [] ∧ (∀ s ∈ quotedLink, s.Grammatical) ∧ (Ending.attr .descendant "rel").Proper ∧
      ∃ path,
        read "//a[@href='/x]/\"y\\'][contains(@title,\"it's, [1]\")][3]/*//@rel".toList = .ok path ∧
        path.steps = quotedLink ∧
        String.ofList path.selectorText =
          "a[href=\"/x]/\\\"y\\\\\"][title*=\"it's, [1]\"]:nth-of-type(3) > *" ∧
        ∀ a, path.target = .attr a ↔ ∃ axis, Ending.attr .descendant "rel" = .attr axis a := by
  have hne : quotedLink ≠ [] := by simp [quotedLink]
  have hname : isName "a".toList = true := by decide
  have hsteps : ∀ s ∈ quotedLink, s.Grammatical := by
    simp only [quotedLink, List.forall_mem_cons, List.not_mem_nil, false_implies, implies_true,
      and_true]
    refine ⟨⟨hname, ?_⟩, ⟨trivial, by simp⟩⟩
    simp only [List.forall_mem_cons, List.not_mem_nil, false_implies, implies_true, and_true]
    exact ⟨⟨by decide, by decide⟩, ⟨by decide, by decide⟩, by decide, by decide⟩
  have hrel : isName "rel".toList = true := by decide
  have hending : (Ending.attr .descendant "rel").Proper := hrel
  have htext : quotedLink.flatMap Step.written ++ (Ending.attr .descendant "rel").written =
      "//a[@href='/x]/\"y\\'][contains(@title,\"it's, [1]\")][3]/*//@rel".toList := by
    decide +kernel
  have hcss : css quotedLink =
      "a[href=\"/x]/\\\"y\\\\\"][title*=\"it's, [1]\"]:nth-of-type(3) > *" := by
    decide +kernel
  have hread := read_grammatical hne hsteps hending
  rw [htext, hcss] at hread
  exact ⟨hne, hsteps, hending, hread⟩

end Stepwise.Path
