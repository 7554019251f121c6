import Stepwise.Proofs.Text.Lossy
import Stepwise.Proofs.Tool.Basic
import Stepwise.Tool.Fetch

namespace Stepwise

-- A network that answers every request alike, with all of a body.
def Network.serving (status : Nat) (body : List UInt8) : Network Unit :=
  ⟨fun _ _ net => (.answer status body.length body, net)⟩

namespace Fetch

variable {ν : Type} {settings : FetchSettings} {network : Network ν} {args : Args} {net : ν}
  {context : Context} {world : World ν} {cap status : Nat} {url : String} {body : List UInt8}
  {v : Json}

-- What a fetch gives back.
def page (content : String) (status : Nat) (url : String) : Json :=
  .obj [("content", .str content), ("status", .ofNat status), ("url", .str url)]

theorem read_eq_ok_iff {reply : Reply} :
    read cap url reply = .ok v ↔
      ∃ status declared sent, reply = .answer status declared sent ∧ status < 400 ∧
        min declared cap ≤ sent.length ∧ v = page (content cap (sent.take declared)) status url := by
  constructor
  · intro h
    cases reply with
    | unreachable detail => cases h
    | answer status declared sent =>
      simp only [read] at h
      split at h
      · cases h
      · split at h
        · cases h
        · cases h
          exact ⟨status, declared, sent, rfl, by omega, by omega, rfl⟩
  · rintro ⟨status, declared, sent, rfl, hstatus, hsent, rfl⟩
    rw [read, if_neg (by omega), if_neg (by omega)]
    rfl

theorem exists_page_of_read {reply : Reply} (h : read cap url reply = .ok v) :
    ∃ content status, v = page content status url := by
  obtain ⟨status, declared, sent, -, -, -, rfl⟩ := read_eq_ok_iff.1 h
  exact ⟨_, status, rfl⟩

-- A request for a web address that is answered with a body. As much of the body arrives as is read.
structure Delivered (settings : FetchSettings) (network : Network ν) (args : Args) (net : ν)
    (url : String) (status : Nat) (body : List UInt8) : Prop where
  asked : args.get? "url" = some (.str url)
  web : checkUrl url = .ok ()
  success : status < 400
  answered : ∃ declared sent,
    (network.get settings.timeoutSecs url net).1 = .answer status declared sent ∧
      min declared settings.maxResponseBytes ≤ sent.length ∧ body = sent.take declared

theorem call_eq_ok_iff :
    ((tool settings network).call args context world).1 = .ok v ↔
      ∃ url status body, Delivered settings network args world.net url status body ∧
        v = page (content settings.maxResponseBytes body) status url := by
  constructor
  · intro h
    simp only [tool] at h
    split at h
    · cases h
    · next url hurl =>
      split at h
      · cases h
      · next hweb =>
        obtain ⟨status, declared, sent, hreply, hstatus, hsent, rfl⟩ := read_eq_ok_iff.1 h
        exact ⟨url, status, _,
          ⟨Args.get?_of_requireText hurl, hweb, hstatus, declared, sent, hreply, hsent, rfl⟩, rfl⟩
  · rintro ⟨url, status, _, ⟨hasked, hweb, hstatus, declared, sent, hreply, hsent, rfl⟩, rfl⟩
    simp only [tool, Args.requireText_of_get? hasked, hweb]
    exact read_eq_ok_iff.2 ⟨status, declared, sent, hreply, hstatus, hsent, rfl⟩

-- A URL of another kind is not asked for, and the network's state stays as it is.
theorem call_of_checkUrl_error {e : ToolError} (hurl : args.get? "url" = some (.str url))
    (hcheck : checkUrl url = .error e) :
    (tool settings network).call args context world = (.error e, context.frame, world) := by
  simp only [tool, Args.requireText_of_get? hurl, hcheck]

theorem call_of_checkUrl_ok (hurl : args.get? "url" = some (.str url))
    (hcheck : checkUrl url = .ok ()) :
    (tool settings network).call args context world =
      (read settings.maxResponseBytes url (network.get settings.timeoutSecs url world.net).1,
        context.frame,
        { world with net := (network.get settings.timeoutSecs url world.net).2 }) := by
  simp only [tool, Args.requireText_of_get? hurl, hcheck]

theorem longestWithin_content (cap : Nat) (body : List UInt8) :
    Text.LongestWithin cap (Text.decodeLossy (body.take cap)) (content cap body) := by
  obtain ⟨ds, hds, hlongest⟩ := Text.exists_truncate cap (Text.decodeLossy (body.take cap))
  rw [content, hds]
  exact hlongest

-- A fetch that succeeds gives the first bytes of the body, decoded, as far as they fit the cap then.
-- The way back to a place where a text may be cut ends before it would leave the text.
theorem fetched_within_cap (settings : FetchSettings) (network : Network ν) (args : Args)
    (context : Context) (world : World ν) (v : Json) :
    (((tool settings network).call args context world).1 = .ok v ↔
      ∃ url status body text, Delivered settings network args world.net url status body ∧
        Text.LongestWithin settings.maxResponseBytes
          (Text.decodeLossy (body.take (min settings.maxResponseBytes body.length))) text ∧
        v = page text status url) ∧
    ∀ cap cs, ∃ last ≤ cap, Text.boundaryBefore? (Text.encode cs) cap = some last ∧
      Text.isBoundary (Text.encode cs) last = true ∧
      (∃ s : String, s.toList <+: cs ∧ s.utf8ByteSize = last) ∧
      ∃ s : String, Text.truncate? cap cs = some s.toList ∧ Text.LongestWithin cap cs s := by
  have htake (body : List UInt8) : body.take (min settings.maxResponseBytes body.length) =
      body.take settings.maxResponseBytes := by
    rw [List.take_eq_take_iff]
    omega
  constructor
  · rw [call_eq_ok_iff]
    constructor
    · rintro ⟨url, status, body, hbody, rfl⟩
      exact ⟨url, status, body, _, hbody, htake body ▸ longestWithin_content _ body, rfl⟩
    · rintro ⟨url, status, body, text, hbody, hlongest, rfl⟩
      rw [htake] at hlongest
      rw [hlongest.unique (longestWithin_content _ body)]
      exact ⟨url, status, body, hbody, rfl⟩
  · intro cap cs
    obtain ⟨last, hle, hback, hlast, -⟩ := Text.exists_boundaryBefore (Text.encode cs) cap
    obtain ⟨ds, hds, hlength⟩ := Text.isBoundary_encode_iff.1 hlast
    obtain ⟨es, hes, hlongest⟩ := Text.exists_truncate cap cs
    refine ⟨last, hle, hback, hlast, ⟨String.ofList ds, by simpa using hds, ?_⟩,
      String.ofList es, by simpa using hes, hlongest⟩
    rw [Text.utf8ByteSize_ofList, hlength]

-- The cap falls before the last byte of a character that takes four, and the text before the
-- character is `kept`.
def CutsLastByte (cap : Nat) (cs : List Char) (kept : String) : Prop :=
  ∃ c rest, cs = kept.toList ++ c :: rest ∧ c.utf8Size = 4 ∧ kept.utf8ByteSize + 3 = cap

theorem CutsLastByte.longestWithin {cs : List Char} {kept : String}
    (h : CutsLastByte cap cs kept) : Text.LongestWithin cap cs kept := by
  obtain ⟨c, rest, rfl, hsize, rfl⟩ := h
  exact Text.longestWithin_iff.2 ⟨by omega, .inr ⟨c, rest, rfl, by omega⟩⟩

theorem content_of_cutsLastByte {text kept : String} (h : CutsLastByte cap text.toList kept) :
    content cap (Text.encode text.toList) = kept.push Text.replacement := by
  have hcontent := longestWithin_content cap (Text.encode text.toList)
  have hreplacement : Text.replacement.utf8Size = 3 := by decide
  rw [Text.decodeLossy_take_encode h.longestWithin] at hcontent
  obtain ⟨c, rest, htext, -, hcap⟩ := h
  rw [if_pos ⟨by omega, by simp [htext]⟩] at hcontent
  apply hcontent.unique
  rw [Text.longestWithin_iff, String.utf8ByteSize_push, String.toList_push]
  exact ⟨by omega, .inl rfl⟩

-- A replacement takes three bytes, so it fits in the place of a character that is cut only if as
-- many bytes of that character were read.
theorem longestWithin_content_encode {text : String}
    (h : ¬ ∃ kept, CutsLastByte cap text.toList kept) :
    Text.LongestWithin cap text.toList (content cap (Text.encode text.toList)) := by
  obtain ⟨ds, -, hkept⟩ := Text.exists_truncate cap text.toList
  generalize String.ofList ds = kept at hkept
  have hcontent := longestWithin_content cap (Text.encode text.toList)
  rw [Text.decodeLossy_take_encode hkept] at hcontent
  obtain ⟨hfits, hend⟩ := Text.longestWithin_iff.1 hkept
  have heq : content cap (Text.encode text.toList) = kept := by
    apply hcontent.unique
    rw [Text.longestWithin_iff]
    by_cases hcut : kept.utf8ByteSize < cap ∧ kept.toList ≠ text.toList
    · rw [if_pos hcut]
      obtain ⟨c, rest, htext, hnext⟩ := hend.resolve_left hcut.2
      have hreplacement : Text.replacement.utf8Size = 3 := by decide
      have hsize : c.utf8Size ≤ 4 := c.utf8Size_le_four
      have hopen : cap < kept.utf8ByteSize + 3 := by
        by_contra hthree
        exact h ⟨kept, c, rest, htext, by omega, by omega⟩
      exact ⟨hfits, .inr ⟨Text.replacement, [], rfl, by omega⟩⟩
    · rw [if_neg hcut]
      exact ⟨hfits, .inl rfl⟩
  rwa [heq]

-- A text within the cap comes back whole.
theorem content_encode_of_le (text : String) (h : text.utf8ByteSize ≤ cap) :
    content cap (Text.encode text.toList) = text := by
  have hwhole : Text.LongestWithin cap text.toList text := Text.longestWithin_iff.2 ⟨h, .inl rfl⟩
  refine (longestWithin_content_encode ?_).unique hwhole
  rintro ⟨kept, hkept⟩
  obtain rfl : kept = text := hkept.longestWithin.unique hwhole
  obtain ⟨c, rest, htext, -⟩ := hkept
  simp at htext

-- The content of a body that is text is the longest beginning of the text within the cap, unless
-- the cap falls before the last byte of a character that takes four. Then a replacement stands for
-- this character.
theorem fetched_longest_iff {text : String}
    (h : Delivered settings network args world.net url status (Text.encode text.toList))
    (context : Context) :
    ∃ content, ((tool settings network).call args context world).1 = .ok (page content status url) ∧
      (Text.LongestWithin settings.maxResponseBytes text.toList content ↔
        ¬ ∃ kept, CutsLastByte settings.maxResponseBytes text.toList kept) ∧
      ∀ kept, CutsLastByte settings.maxResponseBytes text.toList kept →
        content = kept.push Text.replacement := by
  refine ⟨_, call_eq_ok_iff.2 ⟨url, status, _, h, rfl⟩, ⟨?_, longestWithin_content_encode⟩,
    fun kept hkept => content_of_cutsLastByte hkept⟩
  rintro hlongest ⟨kept, hkept⟩
  have hsame := hlongest.unique hkept.longestWithin
  rw [content_of_cutsLastByte hkept] at hsame
  have hsize := congrArg String.utf8ByteSize hsame
  rw [String.utf8ByteSize_push] at hsize
  have hpos := Text.replacement.utf8Size_pos
  omega

-- Of the four bytes of the last character three fit.
theorem fetched_longest_lastCut :
    Delivered ⟨10, 4⟩ (.serving 200 (Text.encode "a😀".toList))
      (.ofList [("url", .str "http://[::1]")]) () "http://[::1]" 200 (Text.encode "a😀".toList) ∧
    ∃ content, ((tool ⟨10, 4⟩ (.serving 200 (Text.encode "a😀".toList))).call
        (.ofList [("url", .str "http://[::1]")]) (.ofGoal "") ⟨.empty, ()⟩).1 =
          .ok (page content 200 "http://[::1]") ∧
      (Text.LongestWithin 4 "a😀".toList content ↔ ¬ ∃ kept, CutsLastByte 4 "a😀".toList kept) ∧
      ∀ kept, CutsLastByte 4 "a😀".toList kept → content = kept.push Text.replacement := by
  have hdelivered : Delivered ⟨10, 4⟩ (.serving 200 (Text.encode "a😀".toList))
      (.ofList [("url", .str "http://[::1]")]) () "http://[::1]" 200
        (Text.encode "a😀".toList) := by
    refine ⟨rfl, rfl, by decide, _, _, rfl, Nat.min_le_left _ _, ?_⟩
    rw [List.take_length]
  exact ⟨hdelivered, @fetched_longest_iff _ _ _ _ ⟨.empty, ()⟩ _ _ _ hdelivered (.ofGoal "")⟩

-- A body of one character comes back as another one.
theorem not_longestWithin_emoji :
    ∃ content, ((tool ⟨10, 3⟩ (.serving 200 (Text.encode "😀".toList))).call
        (.ofList [("url", .str "http://[::1]")]) (.ofGoal "") ⟨.empty, ()⟩).1 =
          .ok (page content 200 "http://[::1]") ∧
      content.toList = [Text.replacement] ∧ ¬ Text.LongestWithin 3 "😀".toList content := by
  have hcuts : CutsLastByte 3 "😀".toList "" := ⟨'😀', [], rfl, by decide, by decide⟩
  have hcontent : content 3 (Text.encode "😀".toList) = "".push Text.replacement :=
    content_of_cutsLastByte hcuts
  refine ⟨content 3 (Text.encode "😀".toList), rfl, by rw [hcontent]; rfl, ?_⟩
  rw [hcontent]
  intro hlongest
  have hbegins := hlongest.begins
  revert hbegins
  decide

end Fetch

end Stepwise
