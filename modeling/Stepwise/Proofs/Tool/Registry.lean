import Mathlib.Data.List.Induction
import Stepwise.Proofs.Dict
import Stepwise.Proofs.Text.Utf8
import Stepwise.Run.Basic

namespace Stepwise

-- The keys ascend by their characters, and so by their bytes.
theorem Dict.keys_ascending {α : Type} (d : Dict α) :
    d.keys.Pairwise fun a b => Text.encode a.toList < Text.encode b.toList :=
  List.pairwise_map.2 (d.ascending.imp fun h => Text.encode_lt_encode (String.lt_iff.1 h))

namespace Registry

variable {α σ : Type} {name : String} {tool : α}

-- What a registry is asked for.
inductive Request (α : Type)
  | register (name : String) (tool : α)
  | close
  | resolve (name : String)
  | contains (name : String)
  | names

-- What it answers.
inductive Answer (α : Type)
  | registered (result : Except RegistryError Unit)
  | closed
  | resolved (result : Except RegistryError α)
  | contained (result : Bool)
  | listed (names : List String)

abbrev History (α : Type) := List (Request α × Answer α)

def serve (r : Registry α) : Request α → Answer α × Registry α
  | .register name tool =>
    match r.register name tool with
    | .ok r => (.registered (.ok ()), r)
    | .error e => (.registered (.error e), r)
  | .close => (.closed, r.close)
  | .resolve name => (.resolved (r.resolve name), r)
  | .contains name => (.contained (r.contains name), r)
  | .names => (.listed r.names, r)

def serveAll (r : Registry α) : List (Request α) → History α × Registry α
  | [] => ([], r)
  | q :: rest => ((q, (r.serve q).1) :: ((r.serve q).2.serveAll rest).1, ((r.serve q).2.serveAll rest).2)

def WasClosed (history : History α) : Prop := (.close, .closed) ∈ history

-- Someone has registered a tool under the name, with success.
def Granted (history : History α) (name : String) (tool : α) : Prop :=
  (.register name tool, .registered (.ok ())) ∈ history

-- The first success under the name was with this tool.
def FirstGranted (history : History α) (name : String) (tool : α) : Prop :=
  ∃ before after, history = before ++ (.register name tool, .registered (.ok ())) :: after ∧
    ∀ other, ¬ Granted before name other

section History

variable {history later : History α} {e : Request α × Answer α}

theorem FirstGranted.append (h : FirstGranted history name tool) (later : History α) :
    FirstGranted (history ++ later) name tool := by
  obtain ⟨before, after, rfl, hnone⟩ := h
  exact ⟨before, after ++ later, by simp, hnone⟩

theorem firstGranted_concat : FirstGranted (history ++ [e]) name tool ↔
    FirstGranted history name tool ∨
      e = (.register name tool, .registered (.ok ())) ∧ ∀ other, ¬ Granted history name other := by
  constructor
  · rintro ⟨before, after, hsplit, hnone⟩
    rcases List.eq_nil_or_concat after with rfl | ⟨after, last, rfl⟩
    · obtain ⟨rfl, he⟩ := List.append_inj' hsplit rfl
      cases he
      exact .inr ⟨rfl, hnone⟩
    · rw [List.concat_eq_append, ← List.cons_append, ← List.append_assoc] at hsplit
      obtain ⟨rfl, -⟩ := List.append_inj' hsplit rfl
      exact .inl ⟨before, after, rfl, hnone⟩
  · rintro (h | ⟨rfl, hnone⟩)
    · exact h.append [e]
    · exact ⟨history, [], rfl, hnone⟩

-- Where there is a success under a name, there is a first one.
theorem exists_granted_iff :
    (∃ tool, Granted history name tool) ↔ ∃ tool, FirstGranted history name tool := by
  constructor
  · induction history using List.reverseRecOn with
    | nil => rintro ⟨tool, hgranted⟩; cases hgranted
    | append_singleton history e ih =>
      rintro ⟨tool, hgranted⟩
      by_cases hbefore : ∃ other, Granted history name other
      · obtain ⟨other, hfirst⟩ := ih hbefore
        exact ⟨other, hfirst.append [e]⟩
      · have hnone : ∀ other, ¬ Granted history name other := not_exists.1 hbefore
        rcases List.mem_append.1 hgranted with hmem | hmem
        · exact absurd hmem (hnone tool)
        · exact ⟨tool, firstGranted_concat.2 (.inr ⟨(List.mem_singleton.1 hmem).symm, hnone⟩)⟩
  · rintro ⟨tool, before, after, rfl, -⟩
    exact ⟨tool, List.mem_append_right _ List.mem_cons_self⟩

end History

-- The content of a registry, told by the requests it has served.
structure Recorded (history : History α) (r : Registry α) : Prop where
  get? : ∀ name tool, r.tools.get? name = some tool ↔ FirstGranted history name tool
  isSealed : r.isSealed = true ↔ WasClosed history

variable {r after : Registry α} {history : History α} {q : Request α} {qs : List (Request α)}

theorem Recorded.empty : Recorded [] (empty : Registry α) where
  get? name tool := by
    constructor
    · intro h
      cases h
    · rintro ⟨before, after, hsplit, -⟩
      simp at hsplit
  isSealed := by simp [Registry.empty, WasClosed]

theorem Recorded.mem_names_iff (h : Recorded history r) :
    name ∈ r.names ↔ ∃ tool, Granted history name tool := by
  rw [names, Dict.mem_keys_iff, exists_granted_iff]
  exact exists_congr (h.get? name)

-- An answer that is neither a success nor a closing leaves the content to be told as before.
theorem Recorded.concat_of_ne {e : Request α × Answer α} (h : Recorded history r)
    (hgrant : ∀ name tool, e ≠ (.register name tool, .registered (.ok ())))
    (hclose : e ≠ (.close, .closed)) : Recorded (history ++ [e]) r where
  get? name tool := by
    rw [h.get?, firstGranted_concat]
    exact ⟨.inl, fun hor => hor.resolve_right fun hand => hgrant name tool hand.1⟩
  isSealed := by
    rw [h.isSealed, WasClosed, WasClosed, List.mem_append, List.mem_singleton]
    exact ⟨.inl, fun hor => hor.resolve_right fun heq => hclose heq.symm⟩

theorem register_eq_ok_iff : r.register name tool = .ok after ↔
    r.isSealed = false ∧ name ∉ r.names ∧ after = { r with tools := r.tools.insert name tool } := by
  rw [register, names, ← Dict.contains_iff]
  cases r.isSealed <;> cases r.tools.contains name <;> simp [eq_comm]

theorem register_of_isSealed (h : r.isSealed = true) :
    r.register name tool = .error (.isSealed name) := by
  rw [register, if_pos h]

theorem register_of_mem (h : r.isSealed = false) (hname : name ∈ r.names) :
    r.register name tool = .error (.duplicate name) := by
  rw [register, h, if_neg Bool.false_ne_true, if_pos (Dict.contains_iff.2 hname)]

-- One request after another, the history goes on telling the content.
theorem Recorded.serve (h : Recorded history r) (q : Request α) :
    Recorded (history ++ [(q, (r.serve q).1)]) (r.serve q).2 := by
  cases q with
  | register name tool =>
    cases hregister : r.register name tool with
    | error e =>
      simp only [Registry.serve, hregister]
      exact h.concat_of_ne (by simp) (by simp)
    | ok after =>
      obtain ⟨hopen, hnew, rfl⟩ := register_eq_ok_iff.1 hregister
      have hnone : ∀ other, ¬ Granted history name other := fun other hgranted =>
        hnew (h.mem_names_iff.2 ⟨other, hgranted⟩)
      simp only [Registry.serve, hregister]
      constructor
      · intro n t
        rw [firstGranted_concat, Dict.get?_insert]
        by_cases hn : n = name
        · subst hn
          have hfirst : ¬ FirstGranted history n t := fun hfirst =>
            not_exists.2 hnone (exists_granted_iff.2 ⟨t, hfirst⟩)
          simp [hfirst, hnone]
        · rw [if_neg hn, h.get?]
          simp [Ne.symm hn]
      · rw [h.isSealed]
        simp [WasClosed]
  | close =>
    constructor
    · intro n t
      rw [firstGranted_concat]
      simp [Registry.serve, close, h.get?]
    · simp [Registry.serve, close, WasClosed]
  | resolve name => exact h.concat_of_ne (by simp) (by simp)
  | contains name => exact h.concat_of_ne (by simp) (by simp)
  | names => exact h.concat_of_ne (by simp) (by simp)

theorem serveAll_append (r : Registry α) (qs more : List (Request α)) :
    r.serveAll (qs ++ more) = ((r.serveAll qs).1 ++ ((r.serveAll qs).2.serveAll more).1,
      ((r.serveAll qs).2.serveAll more).2) := by
  induction qs generalizing r with
  | nil => rfl
  | cons q qs ih => simp only [List.cons_append, serveAll, ih]

theorem Recorded.serveAll (h : Recorded history r) (qs : List (Request α)) :
    Recorded (history ++ (r.serveAll qs).1) (r.serveAll qs).2 := by
  induction qs generalizing history r with
  | nil => simpa [Registry.serveAll] using h
  | cons q qs ih => simpa [Registry.serveAll] using ih (h.serve q)

-- A closed registry answers every request as it is.
theorem serve_of_isSealed (h : r.isSealed = true) (q : Request α) :
    (r.serve q).2 = r ∧ ∀ name tool,
      (q, (r.serve q).1) ≠ (.register name tool, .registered (.ok ())) := by
  cases q with
  | register name tool => simp [serve, register_of_isSealed h]
  | close =>
    refine ⟨?_, by simp⟩
    rw [serve, close, ← h]
  | resolve name => simp [serve]
  | contains name => simp [serve]
  | names => simp [serve]

theorem serveAll_of_isSealed (h : r.isSealed = true) (qs : List (Request α)) :
    (r.serveAll qs).2 = r ∧ ∀ name tool, ¬ Granted (r.serveAll qs).1 name tool := by
  induction qs with
  | nil => exact ⟨rfl, fun _ _ hmem => by cases hmem⟩
  | cons q qs ih =>
    obtain ⟨hkept, hnone⟩ := serve_of_isSealed h q
    simp only [serveAll, hkept]
    refine ⟨ih.1, fun name tool hmem => ?_⟩
    rcases List.mem_cons.1 hmem with heq | hmem
    · exact hnone name tool heq.symm
    · exact ih.2 name tool hmem

theorem resolve_eq_ok_iff : r.resolve name = .ok tool ↔ r.tools.get? name = some tool := by
  unfold resolve
  cases r.tools.get? name <;> simp

-- What a registry holds and does, as its history decides it.
structure Account (history : History (Tool σ)) (r : Registry (Tool σ)) : Prop where
  ascending : r.names.Pairwise fun a b => Text.encode a.toList < Text.encode b.toList
  mem_names : ∀ name, name ∈ r.names ↔ ∃ tool, Granted history name tool
  size : r.size = r.names.length
  contains : ∀ name, r.contains name = true ↔ name ∈ r.names
  resolve : ∀ name tool, r.resolve name = .ok tool ↔ FirstGranted history name tool
  missing : ∀ name, name ∉ r.names → r.resolve name = .error (.notFound name)
  -- a refused registration leaves the registry as it is
  closed : WasClosed history → ∀ name tool,
    r.serve (.register name tool) = (.registered (.error (.isSealed name)), r)
  taken : ¬ WasClosed history → ∀ name ∈ r.names, ∀ tool,
    r.serve (.register name tool) = (.registered (.error (.duplicate name)), r)
  granted : ¬ WasClosed history → ∀ name, name ∉ r.names → ∀ tool,
    (r.serve (.register name tool)).1 = .registered (.ok ())
  accepted : WasClosed history → ∃ e, Executor.ofRegistry r = .ok e ∧ e.registry = r
  refused : ¬ WasClosed history → Executor.ofRegistry r = .error .notSealed

theorem Recorded.account {history : History (Tool σ)} {r : Registry (Tool σ)}
    (h : Recorded history r) : Account history r where
  ascending := r.tools.keys_ascending
  mem_names name := h.mem_names_iff
  size := by rw [size, names, Dict.size, Dict.keys, List.length_map]
  contains name := Dict.contains_iff
  resolve name tool := resolve_eq_ok_iff.trans (h.get? name tool)
  missing name hname := by
    have hnone : r.tools.get? name = none := by
      rw [Option.eq_none_iff_forall_not_mem]
      exact fun tool hget => hname (Dict.mem_keys_iff.2 ⟨tool, hget⟩)
    rw [Registry.resolve, hnone]
  closed hclosed name tool := by
    simp only [Registry.serve, register_of_isSealed (h.isSealed.2 hclosed)]
  taken hopen name hname tool := by
    have hfalse : r.isSealed = false := Bool.eq_false_iff.2 fun hs => hopen (h.isSealed.1 hs)
    simp only [Registry.serve, register_of_mem hfalse hname]
  granted hopen name hname tool := by
    have hfalse : r.isSealed = false := Bool.eq_false_iff.2 fun hs => hopen (h.isSealed.1 hs)
    simp only [Registry.serve, register_eq_ok_iff.2 ⟨hfalse, hname, rfl⟩]
  accepted hclosed := ⟨⟨r, h.isSealed.2 hclosed⟩, dif_pos (h.isSealed.2 hclosed), rfl⟩
  refused hopen := dif_neg fun hs => hopen (h.isSealed.1 hs)

-- However many requests a fresh registry has served, its history tells what it holds. Whatever else
-- it is asked for, no tool is replaced or lost, and once it has been closed nothing changes.
theorem lifetime (requests more : List (Request (Tool σ))) :
    Account (empty.serveAll requests).1 (empty.serveAll requests).2 ∧
      (∀ name tool, (empty.serveAll requests).2.resolve name = .ok tool →
        (empty.serveAll (requests ++ more)).2.resolve name = .ok tool) ∧
      (WasClosed (empty.serveAll requests).1 →
        (empty.serveAll (requests ++ more)).2 = (empty.serveAll requests).2 ∧
          ∀ name tool, Granted (empty.serveAll (requests ++ more)).1 name tool →
            Granted (empty.serveAll requests).1 name tool) := by
  have hrecorded : Recorded (empty.serveAll requests).1 (empty.serveAll requests).2 :=
    Recorded.empty.serveAll requests
  have hmore := hrecorded.serveAll more
  rw [serveAll_append]
  refine ⟨hrecorded.account, fun name tool hresolve => ?_, fun hclosed => ?_⟩
  · have hfirst := (hrecorded.account.resolve name tool).1 hresolve
    exact (hmore.account.resolve name tool).2 (hfirst.append _)
  · obtain ⟨hkept, hnone⟩ := serveAll_of_isSealed (hrecorded.isSealed.2 hclosed) more
    refine ⟨hkept, fun name tool hgranted => ?_⟩
    exact (List.mem_append.1 hgranted).resolve_right (hnone name tool)

end Registry

end Stepwise
