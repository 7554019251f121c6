import Stepwise.Proofs.Toml.Scalar
import Stepwise.Settings.Writer

namespace Stepwise.Toml

variable {name : String} {ss ss' : List Statement} {cs more rest : List Char}

-- A name that needs no quotes.
structure Bare (name : String) : Prop where
  ne_nil : name.toList ≠ []
  chars : ∀ c ∈ name.toList, isBareKeyChar c = true

-- A quantifier over characters would be decided for every character there is.
instance (name : String) : Decidable (Bare name) :=
  decidable_of_iff (name.toList ≠ [] ∧ name.toList.all isBareKeyChar = true)
    ⟨fun h => ⟨h.1, List.all_eq_true.1 h.2⟩, fun h => ⟨h.1, List.all_eq_true.2 h.2⟩⟩

-- Lines under one heading, each of which gives a name a value.
structure Section where
  name : String
  entries : List (String × Scalar)

namespace Section

def line (entry : String × Scalar) : List Char :=
  entry.1.toList ++ [' ', '=', ' '] ++ entry.2.written ++ ['\n']

def written (s : Section) : List Char := headingLine s.name ++ s.entries.flatMap line

def statements (s : Section) : List Statement :=
  .heading ⟨[], s.name⟩ :: s.entries.map fun entry => .entry ⟨[], entry.1⟩ entry.2.node

def members (s : Section) : Members := s.entries.map fun entry => (entry.1, entry.2.node)

structure Proper (s : Section) : Prop where
  name : Bare s.name
  entries : ∀ entry ∈ s.entries, Bare entry.1 ∧ entry.2.Proper
  nodup : (s.entries.map Prod.fst).Nodup

end Section

section Name

theorem Bare.exists_cons (h : Bare name) : ∃ c cs, name.toList = c :: cs ∧ isBareKeyChar c = true := by
  obtain ⟨c, cs, hname⟩ := List.exists_cons_of_ne_nil h.ne_nil
  exact ⟨c, cs, hname, h.chars c (by rw [hname]; exact List.mem_cons_self)⟩

theorem ne_of_isBareKeyChar {c d : Char} (hc : isBareKeyChar c = true) (hd : isBareKeyChar d = false) :
    c ≠ d := by
  rintro rfl
  rw [hc] at hd
  cases hd

theorem Bare.readName_eq (h : Bare name) (hrest : ∀ c ∈ rest.head?, isBareKeyChar c = false) :
    readName (name.toList ++ rest) = some (name, rest) := by
  have hstop : rest.takeWhile isBareKeyChar = [] ∧ rest.dropWhile isBareKeyChar = rest := by
    cases rest with
    | nil => exact ⟨rfl, rfl⟩
    | cons c rest => simp [hrest c rfl]
  have htake : (name.toList ++ rest).takeWhile isBareKeyChar = name.toList := by
    rw [List.takeWhile_append_of_pos h.chars, hstop.1, List.append_nil]
  have hdrop : (name.toList ++ rest).dropWhile isBareKeyChar = rest := by
    rw [List.dropWhile_append_of_pos h.chars, hstop.2]
  obtain ⟨c, cs, hname, hc⟩ := h.exists_cons
  have hdouble : c ≠ '"' := ne_of_isBareKeyChar hc (by decide)
  have hsingle : c ≠ '\x27' := ne_of_isBareKeyChar hc (by decide)
  have hread : readName (name.toList ++ rest) =
      if ((name.toList ++ rest).takeWhile isBareKeyChar).isEmpty then none
      else some (String.ofList ((name.toList ++ rest).takeWhile isBareKeyChar),
        (name.toList ++ rest).dropWhile isBareKeyChar) := by
    rw [hname, List.cons_append]
    simp [readName, hdouble, hsingle]
  rw [hread, htake, hdrop, if_neg (by simpa using h.ne_nil), String.ofList_toList]

theorem Bare.skipBlanks_eq (h : Bare name) (rest : List Char) :
    skipBlanks (name.toList ++ rest) = name.toList ++ rest := by
  obtain ⟨c, cs, hname, hc⟩ := h.exists_cons
  have hspace : c ≠ ' ' := ne_of_isBareKeyChar hc (by decide)
  have htab : c ≠ '\t' := ne_of_isBareKeyChar hc (by decide)
  simp [hname, skipBlanks, isBlank, hspace, htab]

-- A bare name alone is a key, when no dot follows it.
theorem Bare.readKey_eq (h : Bare name) (hrest : ∀ c ∈ rest.head?, isBareKeyChar c = false)
    (hdot : ∀ more, skipBlanks rest ≠ '.' :: more) :
    readKey (name.toList ++ rest) = some (⟨[], name⟩, skipBlanks rest) := by
  have hnames : readNames depthLimit (name.toList ++ rest) = some ([name], skipBlanks rest) := by
    unfold depthLimit readNames
    rw [h.skipBlanks_eq, h.readName_eq hrest]
    simp
  simp [readKey, hnames]

end Name

section Statement

theorem readStatement_heading (h : Bare name) (rest : List Char) :
    readStatement (headingLine name ++ rest) = some (.heading ⟨[], name⟩, '\n' :: rest) := by
  have hkey : readKey (name.toList ++ ']' :: '\n' :: rest) = some (⟨[], name⟩, ']' :: '\n' :: rest) :=
    h.readKey_eq (by simp; decide) (by simp [skipBlanks, isBlank])
  obtain ⟨c, cs, hname, hc⟩ := h.exists_cons
  have hbracket : c ≠ '[' := ne_of_isBareKeyChar hc (by decide)
  rw [hname, List.cons_append] at hkey
  simp [headingLine, hname, readStatement, hbracket, hkey, expect?]

theorem readStatement_line {entry : String × Scalar} (hname : Bare entry.1) (hvalue : entry.2.Proper)
    (rest : List Char) :
    readStatement (Section.line entry ++ rest) =
      some (.entry ⟨[], entry.1⟩ entry.2.node, '\n' :: rest) := by
  have hkey : readKey (entry.1.toList ++ ' ' :: '=' :: ' ' :: (entry.2.written ++ '\n' :: rest)) =
      some (⟨[], entry.1⟩, '=' :: ' ' :: (entry.2.written ++ '\n' :: rest)) :=
    hname.readKey_eq (by simp; decide) (by simp [skipBlanks, isBlank])
  have hblank : skipBlanks (' ' :: (entry.2.written ++ '\n' :: rest)) =
      entry.2.written ++ '\n' :: rest := entry.2.skipBlanks_written _
  have hpair : readPair (readValue depthLimit)
      (entry.1.toList ++ ' ' :: '=' :: ' ' :: (entry.2.written ++ '\n' :: rest)) =
        some ((⟨[], entry.1⟩, entry.2.node), '\n' :: rest) := by
    have hread : readValue depthLimit (entry.2.written ++ '\n' :: rest) =
        some (entry.2.node, '\n' :: rest) := hvalue.readValue_eq 78 rest
    have hend : skipBlanks ('\n' :: rest) = '\n' :: rest := rfl
    simp [readPair, hkey, expect?, hblank, hread, hend]
  obtain ⟨c, cs, hchars, hc⟩ := hname.exists_cons
  have hbracket : c ≠ '[' := ne_of_isBareKeyChar hc (by decide)
  have hline : Section.line entry ++ rest =
      entry.1.toList ++ ' ' :: '=' :: ' ' :: (entry.2.written ++ '\n' :: rest) := by
    simp [Section.line]
  rw [hchars, List.cons_append] at hpair
  rw [hline, hchars, List.cons_append]
  simp [readStatement, hbracket, hpair]

end Statement

section Reading

-- Some lines are read as these statements, and the rest follows. There are fewer statements than
-- characters, so the fuel lasts.
def Reads (ss : List Statement) (cs rest : List Char) : Prop :=
  ∀ fuel, cs.length < fuel → ∃ left, rest.length < left ∧
    readStatements fuel cs = (readStatements left rest).map (ss ++ ·)

theorem Reads.nil (cs : List Char) : Reads [] cs cs := fun fuel hfuel =>
  ⟨fuel, hfuel, by simp⟩

theorem Reads.append (h : Reads ss cs more) (h' : Reads ss' more rest) : Reads (ss ++ ss') cs rest := by
  intro fuel hfuel
  obtain ⟨left, hleft, hread⟩ := h fuel hfuel
  obtain ⟨left', hleft', hread'⟩ := h' left hleft
  refine ⟨left', hleft', ?_⟩
  rw [hread, hread', Option.map_map]
  congr 1
  funext more
  exact (List.append_assoc ..).symm

theorem Reads.lineEnd (cs : List Char) : Reads [] ('\n' :: cs) cs := by
  intro fuel hfuel
  obtain ⟨fuel, rfl⟩ := Nat.exists_eq_add_one_of_ne_zero (Nat.ne_of_gt (Nat.zero_lt_of_lt hfuel))
  refine ⟨fuel + 1, Nat.lt_of_succ_lt hfuel, ?_⟩
  simp [readStatements, skipFiller]

theorem Reads.statement {s : Statement} (hne : cs ≠ []) (hskip : skipFiller false cs = some cs)
    (h : readStatement cs = some (s, '\n' :: rest)) (hrest : rest.length + 1 < cs.length) :
    Reads [s] cs rest := by
  have hline : Reads [s] cs ('\n' :: rest) := by
    intro fuel hfuel
    obtain ⟨fuel, rfl⟩ := Nat.exists_eq_add_one_of_ne_zero (Nat.ne_of_gt (Nat.zero_lt_of_lt hfuel))
    refine ⟨fuel, by simp only [List.length_cons]; omega, ?_⟩
    have hclose : closesLine ('\n' :: rest) = true := rfl
    obtain ⟨c, cs, rfl⟩ := List.exists_cons_of_ne_nil hne
    simp [readStatements, hskip, h, hclose]
  exact hline.append (.lineEnd rest)

theorem skipFiller_cons {c : Char} (hend : c ≠ '\n') (hreturn : c ≠ '\r') (hblank : isBlank c = false)
    (hcomment : c ≠ '#') (cs : List Char) : skipFiller false (c :: cs) = some (c :: cs) := by
  simp [skipFiller, *]

theorem reads_heading (h : Bare name) (rest : List Char) :
    Reads [.heading ⟨[], name⟩] (headingLine name ++ rest) rest :=
  .statement (by simp [headingLine])
    (skipFiller_cons (by decide) (by decide) (by decide) (by decide) _)
    (readStatement_heading h rest) (by simp only [headingLine, List.length_append,
      List.length_cons, List.length_nil]; omega)

theorem reads_line {entry : String × Scalar} (hname : Bare entry.1) (hvalue : entry.2.Proper)
    (rest : List Char) :
    Reads [.entry ⟨[], entry.1⟩ entry.2.node] (Section.line entry ++ rest) rest := by
  have hlength : rest.length + 1 < (Section.line entry ++ rest).length := by
    simp only [Section.line, List.length_append, List.length_cons, List.length_nil]
    omega
  refine .statement (by simp [Section.line]) ?_ (readStatement_line hname hvalue rest) hlength
  obtain ⟨c, cs, hchars, hc⟩ := hname.exists_cons
  have hblank : isBlank c = false := by
    simp [isBlank, ne_of_isBareKeyChar hc (d := ' ') rfl, ne_of_isBareKeyChar hc (d := '\t') rfl]
  simp only [Section.line, hchars, List.cons_append, List.append_assoc]
  exact skipFiller_cons (ne_of_isBareKeyChar hc rfl) (ne_of_isBareKeyChar hc rfl) hblank
    (ne_of_isBareKeyChar hc rfl) _

theorem reads_lines {entries : List (String × Scalar)}
    (h : ∀ entry ∈ entries, Bare entry.1 ∧ entry.2.Proper) (rest : List Char) :
    Reads (entries.map fun entry => .entry ⟨[], entry.1⟩ entry.2.node)
      (entries.flatMap Section.line ++ rest) rest := by
  induction entries with
  | nil => exact .nil rest
  | cons entry entries ih =>
    obtain ⟨⟨hname, hvalue⟩, hentries⟩ := List.forall_mem_cons.1 h
    rw [List.flatMap_cons, List.append_assoc]
    exact (reads_line hname hvalue _).append (ih hentries)

theorem reads_section {s : Section} (h : s.Proper) (rest : List Char) :
    Reads s.statements (s.written ++ rest) rest := by
  rw [Section.written, List.append_assoc]
  exact (reads_heading h.name _).append (reads_lines h.entries rest)

-- Sections with a blank line before each further one.
def writtenAll (first : Section) (others : List Section) : List Char :=
  first.written ++ others.flatMap fun s => '\n' :: s.written

theorem reads_others {others : List Section} (h : ∀ s ∈ others, s.Proper) :
    Reads (others.flatMap Section.statements) (others.flatMap fun s => '\n' :: s.written) [] := by
  induction others with
  | nil => exact .nil []
  | cons s others ih =>
    obtain ⟨hs, hothers⟩ := List.forall_mem_cons.1 h
    rw [List.flatMap_cons, List.flatMap_cons, List.cons_append]
    exact (Reads.lineEnd _).append ((reads_section hs _).append (ih hothers))

theorem readStatements_all {first : Section} {others : List Section}
    (h : ∀ s ∈ first :: others, s.Proper) :
    readStatements ((writtenAll first others).length + 1) (writtenAll first others) =
      some ((first :: others).flatMap Section.statements) := by
  obtain ⟨hfirst, hothers⟩ := List.forall_mem_cons.1 h
  have hreads : Reads ((first :: others).flatMap Section.statements) (writtenAll first others) [] :=
    (reads_section hfirst _).append (reads_others hothers)
  obtain ⟨left, hleft, hread⟩ := hreads _ (Nat.lt_succ_self _)
  obtain ⟨left, rfl⟩ := Nat.exists_eq_add_one_of_ne_zero (Nat.ne_of_gt hleft)
  rw [hread]
  simp [readStatements, skipFiller]

end Reading

section Tree

theorem lookup_of_not_mem {ms : Members} (h : name ∉ ms.map Prod.fst) : ms.lookup name = none :=
  List.lookup_eq_none_iff.2 fun m hm => bne_iff_ne.2 fun heq => h (List.mem_map.2 ⟨m, hm, heq.symm⟩)

variable {ms root : Members} {value value' : Node}

theorem lookup_last (h : name ∉ root.map Prod.fst) :
    (root ++ [(name, value)]).lookup name = some value := by
  rw [List.lookup_append, lookup_of_not_mem h, Option.none_or, List.lookup_cons_self]

theorem put_last (h : name ∉ root.map Prod.fst) :
    Members.put name value' (root ++ [(name, value)]) = root ++ [(name, value')] := by
  induction root with
  | nil => simp [Members.put]
  | cons m root ih =>
    simp only [List.map_cons, List.mem_cons, not_or] at h
    simp [Members.put, Ne.symm h.1, ih h.2]

-- A heading with a new name opens a table at the end.
theorem add_heading (current : List String) (h : name ∉ root.map Prod.fst) :
    Draft.add ⟨root, current⟩ (.heading ⟨[], name⟩) =
      some ⟨root ++ [(name, .table .headed [])], [name]⟩ := by
  simp [Draft.add, within, openTable, lookup_of_not_mem h, Key.names]

-- A line gives the table of the latest heading one more member.
theorem add_entry {key : String} (value : Node) (h : name ∉ root.map Prod.fst)
    (hkey : key ∉ ms.map Prod.fst) :
    Draft.add ⟨root ++ [(name, .table .headed ms)], [name]⟩ (.entry ⟨[], key⟩ value) =
      some ⟨root ++ [(name, .table .headed (ms ++ [(key, value)]))], [name]⟩ := by
  simp [Draft.add, within, addEntry, addLast, lookup_last h, lookup_of_not_mem hkey, put_last h]

theorem addAll_entries {entries : List (String × Scalar)} (h : name ∉ root.map Prod.fst)
    (hnodup : (ms.map Prod.fst ++ entries.map Prod.fst).Nodup) (more : List Statement) :
    Draft.addAll ⟨root ++ [(name, .table .headed ms)], [name]⟩
        (entries.map (fun entry => .entry ⟨[], entry.1⟩ entry.2.node) ++ more) =
      Draft.addAll ⟨root ++ [(name, .table .headed
        (ms ++ entries.map fun entry => (entry.1, entry.2.node)))], [name]⟩ more := by
  induction entries generalizing ms with
  | nil => simp
  | cons entry entries ih =>
    have hentry : entry.1 ∉ ms.map Prod.fst := fun hmem =>
      (List.nodup_append.1 hnodup).2.2 _ hmem _ (by simp) rfl
    have hadd := add_entry entry.2.node h hentry
    rw [List.map_cons, List.cons_append, Draft.addAll, hadd, Option.bind_some, ih]
    · simp
    · simpa using hnodup

theorem addAll_section {s : Section} (current : List String) (h : s.name ∉ root.map Prod.fst)
    (hnodup : (s.entries.map Prod.fst).Nodup) (more : List Statement) :
    Draft.addAll ⟨root, current⟩ (s.statements ++ more) =
      Draft.addAll ⟨root ++ [(s.name, .table .headed s.members)], [s.name]⟩ more := by
  rw [Section.statements, List.cons_append, Draft.addAll, add_heading current h, Option.bind_some]
  exact addAll_entries h (by simpa using hnodup) more

theorem addAll_sections {sections : List Section} (current : List String)
    (h : ∀ s ∈ sections, s.Proper)
    (hnodup : (root.map Prod.fst ++ sections.map Section.name).Nodup) :
    (Draft.addAll ⟨root, current⟩ (sections.flatMap Section.statements)).map Draft.root =
      some (root ++ sections.map fun s => (s.name, .table .headed s.members)) := by
  induction sections generalizing root current with
  | nil => simp [Draft.addAll]
  | cons s sections ih =>
    obtain ⟨hs, hsections⟩ := List.forall_mem_cons.1 h
    have hname : s.name ∉ root.map Prod.fst := fun hmem =>
      (List.nodup_append.1 hnodup).2.2 _ hmem _ (by simp) rfl
    rw [List.flatMap_cons, addAll_section current hname hs.nodup, ih _ hsections]
    · simp
    · simpa using hnodup

-- Written sections are read as they are.
theorem read?_writtenAll {first : Section} {others : List Section}
    (h : ∀ s ∈ first :: others, s.Proper) (hnodup : ((first :: others).map Section.name).Nodup) :
    read? (writtenAll first others) =
      some ((first :: others).map fun s => (s.name, .table .headed s.members)) := by
  have hmark : withoutMark (writtenAll first others) = writtenAll first others := rfl
  rw [read?]
  simp only [hmark, readStatements_all h, Option.bind_eq_bind, Option.bind_some, ofStatements?]
  exact addAll_sections [] h (by simpa using hnodup)

end Tree

end Stepwise.Toml
