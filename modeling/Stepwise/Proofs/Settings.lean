import Stepwise.Proofs.Files
import Stepwise.Proofs.Text.Utf8
import Stepwise.Proofs.Toml.Section
import Stepwise.Settings.Save

namespace Stepwise.Settings

open Toml

variable {s : Settings} {path : List String} {fs : Files} {text : List Char}

-- The limits have a signed form of 64 bits.
structure Fits (s : Settings) : Prop where
  timeoutSecs : s.fetcher.timeoutSecs ≤ 0x7FFFFFFFFFFFFFFF
  maxResponseBytes : s.fetcher.maxResponseBytes ≤ 0x7FFFFFFFFFFFFFFF
  runTimeoutSecs : ∀ secs ∈ s.executor.runTimeoutSecs, secs ≤ 0x7FFFFFFFFFFFFFFF

theorem writable_iff :
    s.writable = true ↔ s.planner.topK < 0x8000000000000000 ∧ s.Fits := by
  simp only [writable, Bool.and_eq_true, decide_eq_true_eq]
  constructor
  · rintro ⟨⟨⟨htopK, htimeout⟩, hbytes⟩, hsecs⟩
    refine ⟨htopK, Nat.le_of_lt_succ htimeout, Nat.le_of_lt_succ hbytes, fun secs hmem => ?_⟩
    rw [Option.mem_def.1 hmem] at hsecs
    exact Nat.le_of_lt_succ (of_decide_eq_true hsecs)
  · rintro ⟨htopK, htimeout, hbytes, hsecs⟩
    refine ⟨⟨⟨htopK, Nat.lt_succ_of_le htimeout⟩, Nat.lt_succ_of_le hbytes⟩, ?_⟩
    split
    · next secs hmem => exact decide_eq_true (Nat.lt_succ_of_le (hsecs secs hmem))
    · rfl

section Document

def plannerSection (s : Settings) : Section :=
  ⟨"planner", [("top_k", .number s.planner.topK), ("fetch_url", .text s.planner.fetchUrl)]⟩

def searcherSection (s : Settings) : Section :=
  ⟨"searcher", [("base_url", .text s.searcher.baseUrl)]⟩

def fetcherSection (s : Settings) : Section :=
  ⟨"fetcher", [("timeout_secs", .number s.fetcher.timeoutSecs),
    ("max_response_bytes", .number s.fetcher.maxResponseBytes)]⟩

-- Without a limit the section has no line.
def executorSection (s : Settings) : Section :=
  ⟨"executor", s.executor.runTimeoutSecs.toList.map fun secs => ("run_timeout_secs", .number secs)⟩

def laterSections (s : Settings) : List Section :=
  [s.searcherSection, s.fetcherSection, s.executorSection]

theorem document_eq (s : Settings) : s.document = writtenAll s.plannerSection s.laterSections := by
  cases h : s.executor.runTimeoutSecs <;>
    simp [document, writtenAll, laterSections, plannerSection, searcherSection, fetcherSection,
      executorSection, Section.written, Section.line, Scalar.written, numberLine, textLine, h]

theorem proper_sections (htopK : s.planner.topK < 0x8000000000000000) (h : s.Fits) :
    ∀ x ∈ s.plannerSection :: s.laterSections, x.Proper := by
  obtain ⟨htimeout, hbytes, hsecs⟩ := h
  simp only [plannerSection, searcherSection, fetcherSection, executorSection, laterSections,
    List.forall_mem_cons]
  refine ⟨⟨(by decide : Bare "planner"), ?_, (by decide : ["top_k", "fetch_url"].Nodup)⟩,
    ⟨(by decide : Bare "searcher"), ?_, (by decide : ["base_url"].Nodup)⟩,
    ⟨(by decide : Bare "fetcher"), ?_, (by decide : ["timeout_secs", "max_response_bytes"].Nodup)⟩,
    ⟨(by decide : Bare "executor"), ?_, ?_⟩, List.forall_mem_nil _⟩
  · simp only [List.forall_mem_cons]
    exact ⟨⟨by decide, htopK⟩, ⟨by decide, trivial⟩, List.forall_mem_nil _⟩
  · simp only [List.forall_mem_cons]
    exact ⟨⟨by decide, trivial⟩, List.forall_mem_nil _⟩
  · simp only [List.forall_mem_cons]
    exact ⟨⟨by decide, Nat.lt_succ_of_le htimeout⟩, ⟨by decide, Nat.lt_succ_of_le hbytes⟩,
      List.forall_mem_nil _⟩
  · intro entry hentry
    obtain ⟨secs, hmem, rfl⟩ := List.mem_map.1 hentry
    exact ⟨(by decide : Bare "run_timeout_secs"),
      Nat.lt_succ_of_le (hsecs secs (Option.mem_toList.1 hmem))⟩
  · cases s.executor.runTimeoutSecs <;> simp

theorem nodup_sections (s : Settings) :
    ((s.plannerSection :: s.laterSections).map Section.name).Nodup :=
  show ["planner", "searcher", "fetcher", "executor"].Nodup by decide

theorem natural?_number {n limit : Nat} (h : n < limit) :
    (Scalar.number n).node.natural? limit = some n := by
  simp [Scalar.node, Node.natural?, h]

theorem text?_text (text : String) : (Scalar.text text).node.text? = some text := rfl

-- Every limit with a signed form fits where it is read.
theorem ofMembers?_sections (htopK : s.planner.topK < 0x100000000) (h : s.Fits) :
    ofMembers? ((s.plannerSection :: s.laterSections).map fun x =>
      (x.name, .table .headed x.members)) = some s := by
  obtain ⟨htimeout, hbytes, hsecs⟩ := h
  have hplanner : PlannerSettings.ofNode? (.table .headed s.plannerSection.members) =
      some s.planner := by
    have htopK := natural?_number htopK
    simp [PlannerSettings.ofNode?, Node.fieldOr, Node.field?, plannerSection, Section.members,
      List.lookup_cons, htopK, text?_text]
  have hsearcher : SearchSettings.ofNode? (.table .headed s.searcherSection.members) =
      some s.searcher := by
    simp [SearchSettings.ofNode?, Node.fieldOr, Node.field?, searcherSection, Section.members,
      text?_text]
  have hfetcher : FetchSettings.ofNode? (.table .headed s.fetcherSection.members) =
      some s.fetcher := by
    have htimeout : (Scalar.number s.fetcher.timeoutSecs).node.natural? 0x10000000000000000 =
        some s.fetcher.timeoutSecs := natural?_number (by omega)
    have hbytes : (Scalar.number s.fetcher.maxResponseBytes).node.natural? 0x10000000000000000 =
        some s.fetcher.maxResponseBytes := natural?_number (by omega)
    simp [FetchSettings.ofNode?, Node.fieldOr, Node.field?, fetcherSection, Section.members,
      List.lookup_cons, htimeout, hbytes]
  have hexecutor : RunSettings.ofNode? (.table .headed s.executorSection.members) =
      some s.executor := by
    obtain ⟨planner, searcher, fetcher, ⟨secs?⟩⟩ := s
    cases secs? with
    | none => rfl
    | some secs =>
      have hsecs : (Scalar.number secs).node.natural? 0x10000000000000000 = some secs :=
        natural?_number (Nat.lt_of_le_of_lt (hsecs secs rfl) (by decide))
      simp [RunSettings.ofNode?, Node.fieldOr, Node.field?, executorSection, Section.members, hsecs]
  have hnames : s.plannerSection.name = "planner" ∧ s.searcherSection.name = "searcher" ∧
      s.fetcherSection.name = "fetcher" ∧ s.executorSection.name = "executor" := ⟨rfl, rfl, rfl, rfl⟩
  simp [ofMembers?, sectionOr, laterSections, List.lookup_cons, hnames, hplanner, hsearcher,
    hfetcher, hexecutor]

theorem read?_document (htopK : s.planner.topK < 0x100000000) (h : s.Fits) :
    read? s.document = some s := by
  have hproper := proper_sections (htopK.trans (by decide)) h
  rw [read?, document_eq, read?_writtenAll hproper s.nodup_sections, Option.bind_some,
    ofMembers?_sections htopK h]

end Document

section Save

theorem write?_eq (htopK : s.planner.topK < 0x100000000) (h : s.Fits) :
    s.write? = some s.document := if_pos (writable_iff.2 ⟨htopK.trans (by decide), h⟩)

theorem save_of_not_fits (h : ¬ s.Fits) (path : List String) (fs : Files) :
    ∃ detail, s.save path fs = (.error (.invalid (pathText path) detail), fs) := by
  have hnone : s.write? = none := if_neg fun hwritable => h (writable_iff.1 hwritable).2
  exact ⟨_, by rw [save, hnone]⟩

theorem load_of_read (hread : fs.read path = .ok (Text.encode text)) (htext : read? text = some s) :
    load path fs = .ok s := by
  simp only [load, hread, ofFile, Text.decode?_encode, htext]

theorem save_of_free (hwrite : s.write? = some text) (hfree : fs.Free path) :
    ∃ fs', s.save path fs = (.ok (), fs') ∧ fs'.read path = .ok (Text.encode text) := by
  obtain ⟨made, fs', hmake, hput, hread⟩ := hfree.makes (Text.encode text)
  refine ⟨fs', ?_, hread⟩
  simp only [save, hwrite, hmake, hput]

theorem save_of_not_free (hwrite : s.write? = some text) (hfree : ¬ fs.Free path) :
    ∃ place detail fs', s.save path fs = (.error (.unwritable place detail), fs') := by
  obtain ⟨e, hmake⟩ | ⟨made, e, hmake, hput⟩ := Files.error_of_not_free hfree (Text.encode text)
  · exact ⟨_, _, _, by simp only [save, hwrite, hmake]; rfl⟩
  · exact ⟨_, _, _, by simp only [save, hwrite, hmake, hput]; rfl⟩

-- Settings whose limits fit are read back from what is written for them, whatever their texts are,
-- and are saved wherever a file can be. Without a written form nothing is touched.
theorem saved_faithful (s : Settings) (path : List String) (fs : Files)
    (htopK : s.planner.topK < 0x100000000) :
    (s.Fits → ∃ text, s.write? = some text ∧ read? text = some s ∧
      (fs.Free path → ∃ fs', s.save path fs = (.ok (), fs') ∧
        fs'.read path = .ok (Text.encode text) ∧ load path fs' = .ok s) ∧
      (¬ fs.Free path →
        ∃ place detail fs', s.save path fs = (.error (.unwritable place detail), fs'))) ∧
      (¬ s.Fits → ∃ detail, s.save path fs = (.error (.invalid (pathText path) detail), fs)) := by
  refine ⟨fun hfits => ?_, fun hfits => save_of_not_fits hfits path fs⟩
  have hwrite := write?_eq htopK hfits
  have hread := read?_document htopK hfits
  refine ⟨s.document, hwrite, hread, fun hfree => ?_, save_of_not_free hwrite⟩
  obtain ⟨fs', hsave, hcontent⟩ := save_of_free hwrite hfree
  exact ⟨fs', hsave, hcontent, load_of_read hcontent hread⟩

def quotedSettings : Settings where
  planner := { topK := 7, fetchUrl := "https://example.com/?q='a'&r=\"b\\c\"" }
  searcher := { baseUrl := "first line\r\nsecond line \x00 \x7f" }
  executor := { runTimeoutSecs := some 30 }

def endlessSettings : Settings where
  fetcher := { timeoutSecs := 0x8000000000000000 }

theorem saved_faithful_quotedSettings :
    quotedSettings.planner.topK < 0x100000000 ∧ quotedSettings.Fits ∧
      (∃ fs', quotedSettings.save ["nested", "agent.toml"] .empty = (.ok (), fs') ∧
        load ["nested", "agent.toml"] fs' = .ok quotedSettings) ∧
      endlessSettings.planner.topK < 0x100000000 ∧ ¬ endlessSettings.Fits ∧
      ∃ detail, endlessSettings.save ["nested", "agent.toml"] .empty =
        (.error (.invalid "nested/agent.toml" detail), .empty) := by
  have hfits : quotedSettings.Fits := ⟨by decide, by decide, by decide⟩
  have hendless : ¬ endlessSettings.Fits := fun h => absurd h.timeoutSecs (by decide)
  have hfree : Files.empty.Free ["nested", "agent.toml"] := Files.free_empty (by decide)
  obtain ⟨text, -, -, hsave, -⟩ :=
    (saved_faithful quotedSettings ["nested", "agent.toml"] .empty (by decide)).1 hfits
  obtain ⟨fs', hsave, -, hload⟩ := hsave hfree
  have herror :=
    (saved_faithful endlessSettings ["nested", "agent.toml"] .empty (by decide)).2 hendless
  exact ⟨by decide, hfits, ⟨fs', hsave, hload⟩, by decide, hendless, herror⟩

end Save

end Stepwise.Settings
