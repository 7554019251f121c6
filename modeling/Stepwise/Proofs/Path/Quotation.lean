import Stepwise.Proofs.Path.Selector
import Stepwise.Proofs.Selector.Word

namespace Stepwise.Path

open Selector (Token Value)

variable {c : Char} {v w more rest : List Char} {name value : String} {t : Token}

section Escape

-- One text in the place of each `c`.
def replaceEach (c : Char) (text cs : List Char) : List Char :=
  cs.flatMap fun d => if d = c then text else [d]

theorem replaceEach_cons (c d : Char) (text cs : List Char) :
    replaceEach c text (d :: cs) = (if d = c then text else [d]) ++ replaceEach c text cs :=
  List.flatMap_cons

theorem replaceEach_append (c : Char) (text cs more : List Char) :
    replaceEach c text (cs ++ more) = replaceEach c text cs ++ replaceEach c text more :=
  List.flatMap_append

-- Both marks are replaced, backslashes first: the backslashes that the quotes get are not doubled.
theorem escape_eq_replaceEach (v : List Char) :
    escape v = replaceEach '"' ['\\', '"'] (replaceEach '\\' ['\\', '\\'] v) := by
  induction v with
  | nil => rfl
  | cons c v ih =>
    rw [escape, ih, replaceEach_cons, replaceEach_append]
    by_cases hslash : c = '\\'
    · subst hslash
      rfl
    · rw [if_neg hslash, replaceEach_cons]
      by_cases hquote : c = '"'
      · subst hquote
        rfl
      · rw [if_neg (not_or.2 ⟨hslash, hquote⟩), if_neg hquote]
        rfl

-- The text before the first quote that no backslash takes, and what is left behind the quote. `taken`
-- says that a backslash stands before the text.
def unescape (taken : Bool) : List Char → List Char × List Char
  | [] => ([], [])
  | c :: rest =>
    if taken then (c :: (unescape false rest).1, (unescape false rest).2)
    else if c = '"' then ([], rest)
    else if c = '\\' then unescape true rest
    else (c :: (unescape false rest).1, (unescape false rest).2)

theorem unescape_escape (v more : List Char) :
    unescape false (escape v ++ '"' :: more) = (v, more) := by
  induction v with
  | nil => rfl
  | cons c v ih =>
    rw [escape]
    by_cases hmark : c = '\\' ∨ c = '"'
    · rw [if_pos hmark]
      simp [unescape, ih]
    · rw [if_neg hmark]
      rw [not_or] at hmark
      simp [unescape, ih, hmark.1, hmark.2]

-- No value ends where another goes on, so a value and what follows it are told apart.
theorem escape_append_inj (h : escape v ++ '"' :: more = escape w ++ '"' :: rest) :
    v = w ∧ more = rest := by
  have hread := congrArg (unescape false) h
  rw [unescape_escape, unescape_escape] at hread
  exact Prod.mk.inj hread

theorem escape_injective : Function.Injective escape := by
  intro v w h
  have hquoted : escape v ++ '"' :: [] = escape w ++ '"' :: [] := by rw [h]
  exact (escape_append_inj hquoted).1

end Escape

section Quoted

theorem next_quoted (h : Unbroken value) (more : List Char) :
    Token.next '"' (escape value.toList ++ '"' :: more) = (some (.string value), more) := by
  have hnext : Token.next '"' (escape value.toList ++ '"' :: more) =
      (some (Token.readQuoted '"' (escape value.toList ++ '"' :: more)).1,
        (Token.readQuoted '"' (escape value.toList ++ '"' :: more)).2) := rfl
  have hread : Token.readQuoted '"' (escape value.toList ++ '"' :: more) =
      (.string (shown value), more) := by
    rw [Token.readQuoted, Token.readString_escape h.oneLine]
    rfl
  rw [hnext, hread, h.shown_eq]

-- A bracket with a name, an operator and a value in it. `c` and what follows it up to the value are
-- the operator `t`.
theorem values_attribute (hname : isName name.toList = true) (hvalue : Unbroken value)
    (hc : c ∈ [']', '=', '*']) (ht : Token.Flat t)
    (hnext : Token.next c rest = (some t, quoted value ++ ']' :: more)) :
    Value.ofTokens (Token.all ('[' :: name.toList ++ c :: rest)) =
      .block .square ((Token.all name.toList).map .token ++ [.token t, .token (.string value)]) ::
        Value.ofTokens (Token.all more) := by
  have hopen : Token.next '[' (name.toList ++ c :: rest) =
      (some (.opener .square), name.toList ++ c :: rest) := rfl
  have hends : Token.EndsAttribute (c :: rest) := by
    intro d hd
    rwa [← Option.some.inj hd]
  obtain ⟨hflat, hwords⟩ := Token.all_append_mark fun d hd => isNamePart_of_mem hname hd
  have hall : Token.all ('[' :: name.toList ++ c :: rest) =
      (.opener .square :: (Token.all name.toList ++ [t, .string value]) ++ [.closer .square]) ++
        Token.all more := by
    rw [List.cons_append, Token.all_of_next hopen, hwords _ hends, Token.all_of_next hnext,
      all_value hvalue.oneLine, hvalue.shown_eq]
    simp
  have hfolds : Value.Folds (Token.all name.toList ++ [t, .string value])
      ((Token.all name.toList).map .token ++ [.token t, .token (.string value)]) := by
    have hplain := folds_plain (Token.all name.toList ++ [t, .string value]) (by
      rw [List.forall_mem_append]
      refine ⟨fun u hu => ⟨(hflat u hu).opener, (hflat u hu).closer⟩, ?_⟩
      simp [ht.opener, ht.closer])
    simpa using hplain
  rw [hall]
  exact (hfolds.block .square).ofTokens_append _

end Quoted

-- A value without ends of lines is read back from between its quotes as it is, and its attribute
-- selector ends at its own bracket, whatever the value holds and whatever follows.
theorem escaped_read_back (h : Unbroken value) (more : List Char) :
    Token.next '"' (escape value.toList ++ '"' :: more) = (some (.string value), more) ∧
    (∀ w rest, escape value.toList ++ '"' :: more = escape w ++ '"' :: rest →
      value.toList = w ∧ more = rest) ∧
    Function.Injective escape ∧
    (∀ w, escape w = replaceEach '"' ['\\', '"'] (replaceEach '\\' ['\\', '\\'] w)) ∧
    ∀ name : String, isName name.toList = true →
      Value.ofTokens (Token.all ((Condition.equal name value).selectorText ++ more)) =
        .block .square ((Token.all name.toList).map .token ++
          [.token (.delim '='), .token (.string value)]) :: Value.ofTokens (Token.all more) ∧
      Value.ofTokens (Token.all ((Condition.part name value).selectorText ++ more)) =
        .block .square ((Token.all name.toList).map .token ++
          [.token (.operator .part), .token (.string value)]) :: Value.ofTokens (Token.all more) := by
  refine ⟨next_quoted h more, fun w rest => escape_append_inj, escape_injective,
    escape_eq_replaceEach, fun name hname => ⟨?_, ?_⟩⟩
  · have hequal : Token.next '=' (quoted value ++ ']' :: more) =
        (some (.delim '='), quoted value ++ ']' :: more) := rfl
    have htext : (Condition.equal name value).selectorText =
        '[' :: name.toList ++ '=' :: quoted value ++ [']'] := rfl
    rw [htext, List.append_assoc, List.append_assoc]
    exact values_attribute hname h (by simp) ⟨by simp, by simp⟩ hequal
  · have hpart : Token.next '*' ('=' :: (quoted value ++ ']' :: more)) =
        (some (.operator .part), quoted value ++ ']' :: more) := rfl
    have htext : (Condition.part name value).selectorText =
        '[' :: name.toList ++ '*' :: '=' :: quoted value ++ [']'] := rfl
    rw [htext, List.append_assoc, List.append_assoc]
    exact values_attribute hname h (by simp) ⟨by simp, by simp⟩ hpart

-- A value with a quote behind a backslash, and with a backslash at its end.
theorem escaped_read_back_backslash :
    Unbroken "\\\"] > b\\" ∧
      Token.next '"' "\\\\\\\"] > b\\\\\"].c\"]".toList =
        (some (.string "\\\"] > b\\"), "].c\"]".toList) ∧
      Value.ofTokens (Token.all "[x:y=\"\\\\\\\"] > b\\\\\"].c\"]".toList) =
        .block .square [.token (.ident "x"), .token .colon, .token (.ident "y"),
          .token (.delim '='), .token (.string "\\\"] > b\\")] ::
            Value.ofTokens (Token.all ".c\"]".toList) := by
  have hvalue : Unbroken "\\\"] > b\\" := by decide
  have hescape : escape "\\\"] > b\\".toList = "\\\\\\\"] > b\\\\".toList := by decide +kernel
  have hname : Token.all "x:y".toList = [.ident "x", .colon, .ident "y"] := by decide +kernel
  have hread := escaped_read_back hvalue "].c\"]".toList
  have hbracket := (escaped_read_back hvalue ".c\"]".toList).2.2.2.2 "x:y" (by decide)
  rw [hescape] at hread
  rw [hname] at hbracket
  exact ⟨hvalue, hread.1, hbracket.1⟩

end Stepwise.Path
