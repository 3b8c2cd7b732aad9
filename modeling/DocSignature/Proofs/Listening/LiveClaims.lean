import DocSignature.Listening.Network
import Mathlib.Data.List.Induction
import Mathlib.Data.List.Nodup

/-!
# The registry and the live claims

A registry (`ServerRegistry`) knows addresses only, and claims (`Registration`) come and go in any
order.  `Claims.Agrees` says that the two match: the registry has the addresses of the live claims,
and each live claim has an address and an identifier of its own.  Every action keeps this up, so it
holds after every run, and what registering, binding and dropping do to the set of addresses follows
from it.
-/

set_option autoImplicit false

namespace DocSignature.Listening

namespace Registry

/-- An address is registered just if it is in the list. -/
theorem isRegistered_iff (r : Registry) (a : Address) : r.isRegistered a ↔ a ∈ r.bound := by
  simp [isRegistered]

/-- Setting an address free takes it away and no other. -/
theorem mem_bound_release {r : Registry} {a b : Address} :
    b ∈ (r.release a).bound ↔ b ∈ r.bound ∧ b ≠ a := by
  have herase := r.nodup.mem_erase_iff (a := b) (b := a)
  rw [release, herase, and_comm]

/-- Registries with the same addresses are the same. -/
theorem eq_of_bound_eq {r r' : Registry} (h : r.bound = r'.bound) : r = r' := by
  cases r
  cases r'
  simpa using h

end Registry

namespace Claims

/-- Someone holds a claim on an address. -/
def Held (c : Claims) (a : Address) : Prop :=
  ∃ k ∈ c.live, k.address = a

/-- The registry has the addresses of the live claims, each of which has its own address and
identifier. -/
structure Agrees (c : Claims) : Prop where
  registered : ∀ a, a ∈ c.registry.bound ↔ c.Held a
  addresses : (c.live.map (·.address)).Nodup
  ids : (c.live.map (·.id)).Nodup
  /-- Identifiers are given out in order. -/
  fresh : ∀ k ∈ c.live, k.id < c.next

/-- One claim has been added, and nothing else has changed. -/
structure Gains (c : Claims) (k : Claim) (c' : Claims) : Prop where
  live : ∀ k', k' ∈ c'.live ↔ k' = k ∨ k' ∈ c.live
  registered : ∀ a, c'.registry.isRegistered a ↔ a = k.address ∨ c.registry.isRegistered a

/-- One claim has ended, its address is free, and nothing else has changed. -/
structure Loses (c : Claims) (k : Claim) (c' : Claims) : Prop where
  live : ∀ k', k' ∈ c'.live ↔ k' ∈ c.live ∧ k' ≠ k
  registered : ∀ a, c'.registry.isRegistered a ↔ c.registry.isRegistered a ∧ a ≠ k.address

/-- A bind has succeeded: its claim listens, and nothing else has changed. -/
structure Completes (c : Claims) (k : Claim) (c' : Claims) : Prop where
  live : ∀ k', k' ∈ c'.live ↔ k' = { k with stage := .listening } ∨ k' ∈ c.live ∧ k' ≠ k
  registry : c'.registry = c.registry

/-- A new claim whose bind then succeeds is a new claim that listens. -/
theorem Gains.trans_completes {c c₁ c₂ : Claims} {k : Claim} (hgains : c.Gains k c₁)
    (hcompletes : c₁.Completes k c₂) (hnew : k ∉ c.live) :
    c.Gains { k with stage := .listening } c₂ := by
  constructor
  · intro k'
    have hold : k' ∈ c.live → k' ≠ k := by
      rintro hmem rfl
      exact hnew hmem
    rw [hcompletes.live, hgains.live]
    refine or_congr_right ⟨?_, fun hmem => ⟨.inr hmem, hold hmem⟩⟩
    rintro ⟨hsame | hmem, hne⟩
    · exact absurd hsame hne
    · exact hmem
  · intro a
    rw [hcompletes.registry]
    exact hgains.registered a

/-! ## What the actions do -/

section

variable {c : Claims} {a : Address} (stage : Stage)

/-- An address that is spoken for is refused, and nothing happens. -/
theorem claim_of_mem (h : a ∈ c.registry.bound) :
    c.claim a stage = (c, .refused (.alreadyRegistered a)) := by
  have hregister : c.registry.register a = .error (.alreadyRegistered a) := dif_pos h
  rw [claim, hregister]

/-- Any other address is added to the registry together with a new claim. -/
theorem claim_of_notMem (h : a ∉ c.registry.bound) :
    ∃ registry : Registry, registry.bound = a :: c.registry.bound ∧
      c.claim a stage =
        (⟨registry, ⟨c.next, a, stage⟩ :: c.live, c.next + 1⟩, .claimed c.next) := by
  have hnodup : (a :: c.registry.bound).Nodup := List.nodup_cons.2 ⟨h, c.registry.nodup⟩
  have hregister : c.registry.register a = .ok ⟨a :: c.registry.bound, hnodup⟩ := dif_neg h
  refine ⟨⟨a :: c.registry.bound, hnodup⟩, rfl, ?_⟩
  rw [claim, hregister]

/-- Registering and starting to bind come down to making a claim. -/
theorem exists_step_eq_claim {action : Action} (h : action ∈ [Action.register a, .startBind a]) :
    ∃ stage, c.step action = c.claim a stage := by
  rcases List.mem_pair.1 h with rfl | rfl
  · exact ⟨.held, rfl⟩
  · exact ⟨.binding, rfl⟩

end

section

variable {c : Claims} (h : c.Agrees)
include h

/-- Live claims with one identifier are the same. -/
theorem Agrees.id_inj {k k' : Claim} (hk : k ∈ c.live) (hk' : k' ∈ c.live) (hid : k.id = k'.id) :
    k = k' :=
  List.inj_on_of_nodup_map h.ids hk hk' hid

/-- Live claims on one address are the same. -/
theorem Agrees.address_inj {k k' : Claim} (hk : k ∈ c.live) (hk' : k' ∈ c.live)
    (haddress : k.address = k'.address) : k = k' :=
  List.inj_on_of_nodup_map h.addresses hk hk' haddress

/-- A live claim is known by its identifier. -/
theorem Agrees.get?_eq_some {k : Claim} (hk : k ∈ c.live) : c.get? k.id = some k := by
  cases hget : c.get? k.id with
  | none =>
    have hnot := List.find?_eq_none.1 hget k hk
    simp at hnot
  | some k' =>
    have hid : k'.id = k.id := by simpa using List.find?_some hget
    rw [h.id_inj (List.mem_of_find?_eq_some hget) hk hid]

/-- An address on which nobody holds a claim is not registered. -/
theorem Agrees.notMem_bound {a : Address} (hfree : ¬ c.Held a) : a ∉ c.registry.bound :=
  fun hmem => hfree ((h.registered a).1 hmem)

/-- An address on which nobody holds a claim can be claimed. -/
theorem Agrees.claim_gains {a : Address} (stage : Stage) (hfree : ¬ c.Held a) :
    c.Gains ⟨c.next, a, stage⟩ (c.claim a stage).1 := by
  obtain ⟨registry, hbound, hclaim⟩ := claim_of_notMem stage (h.notMem_bound hfree)
  rw [hclaim]
  refine ⟨fun k' => List.mem_cons, fun b => ?_⟩
  rw [Registry.isRegistered_iff, Registry.isRegistered_iff, hbound, List.mem_cons]

/-- A claim that ends takes its own address with it and no other. -/
theorem Agrees.endClaim_loses {k : Claim} (hk : k ∈ c.live) : c.Loses k (c.endClaim k) := by
  constructor
  · intro k'
    have hother : k' ∈ c.live → (k'.id ≠ k.id ↔ k' ≠ k) := by
      intro hk'
      refine not_congr ⟨h.id_inj hk' hk, ?_⟩
      rintro rfl
      rfl
    simp only [endClaim, List.mem_filter, bne_iff_ne]
    exact and_congr_right hother
  · intro b
    rw [Registry.isRegistered_iff, Registry.isRegistered_iff]
    exact Registry.mem_bound_release

/-- A bind that succeeds keeps its claim, which now listens, and all others. -/
theorem Agrees.step_bindSucceeds {k : Claim} (hk : k ∈ c.live) (hstage : k.stage = .binding) :
    c.Completes k (c.step (.bindSucceeds k.id)).1 := by
  have hother : ∀ k' ∈ c.live, k' ≠ k → k'.id ≠ k.id :=
    fun k' hk' hne hid => hne (h.id_inj hk' hk hid)
  refine ⟨fun k' => ?_, rfl⟩
  simp only [Claims.step, List.mem_map]
  constructor
  · rintro ⟨k₀, hk₀, rfl⟩
    by_cases hsame : k₀ = k
    · subst hsame
      exact .inl (if_pos ⟨rfl, hstage⟩)
    · right
      rw [if_neg fun hid => hother k₀ hk₀ hsame hid.1]
      exact ⟨hk₀, hsame⟩
  · rintro (rfl | ⟨hk', hne⟩)
    · exact ⟨k, hk, if_pos ⟨rfl, hstage⟩⟩
    · exact ⟨k', hk', if_neg fun hid => hother k' hk' hne hid.1⟩

/-! ## Every action keeps registry and claims in agreement -/

/-- Making a claim keeps registry and claims in agreement. -/
theorem Agrees.claim (a : Address) (stage : Stage) : (c.claim a stage).1.Agrees := by
  by_cases hmem : a ∈ c.registry.bound
  · rw [claim_of_mem stage hmem]
    exact h
  · have hfree : ∀ k ∈ c.live, k.address ≠ a := by
      intro k hk haddress
      exact hmem ((h.registered a).2 ⟨k, hk, haddress⟩)
    have hnext : ∀ k ∈ c.live, k.id ≠ c.next := by
      intro k hk
      have hlt := h.fresh k hk
      omega
    obtain ⟨registry, hbound, hclaim⟩ := claim_of_notMem stage hmem
    rw [hclaim]
    constructor
    · intro b
      rw [hbound, List.mem_cons, h.registered b]
      simp [Held, eq_comm]
    · simpa [h.addresses] using hfree
    · simpa [h.ids] using hnext
    · intro k hk
      rcases List.mem_cons.1 hk with rfl | hk
      · exact Nat.lt_succ_self c.next
      · have hlt := h.fresh k hk
        exact Nat.lt_succ_of_lt hlt

/-- Ending a claim keeps registry and claims in agreement. -/
theorem Agrees.endClaim {k : Claim} (hk : k ∈ c.live) : (c.endClaim k).Agrees := by
  have hloses := h.endClaim_loses hk
  constructor
  · intro a
    rw [← Registry.isRegistered_iff, hloses.registered, Registry.isRegistered_iff, h.registered]
    constructor
    · rintro ⟨⟨k', hk', rfl⟩, hne⟩
      refine ⟨k', (hloses.live k').2 ⟨hk', ?_⟩, rfl⟩
      rintro rfl
      exact hne rfl
    · rintro ⟨k', hk', rfl⟩
      obtain ⟨hk', hne⟩ := (hloses.live k').1 hk'
      exact ⟨⟨k', hk', rfl⟩, fun haddress => hne (h.address_inj hk' hk haddress)⟩
  · exact h.addresses.sublist (List.filter_sublist.map _)
  · exact h.ids.sublist (List.filter_sublist.map _)
  · intro k' hk'
    exact h.fresh k' ((hloses.live k').1 hk').1

/-- Changing stages changes neither addresses nor identifiers. -/
theorem Agrees.map_live {f : Claim → Claim} (hid : ∀ k, (f k).id = k.id)
    (haddress : ∀ k, (f k).address = k.address) : Agrees { c with live := c.live.map f } := by
  have hids : (c.live.map f).map (·.id) = c.live.map (·.id) := by simp [hid]
  have haddresses : (c.live.map f).map (·.address) = c.live.map (·.address) := by simp [haddress]
  constructor
  · intro a
    rw [h.registered a]
    simp [Held, haddress]
  · exact haddresses ▸ h.addresses
  · exact hids ▸ h.ids
  · intro k hk
    obtain ⟨k', hk', rfl⟩ := List.mem_map.1 hk
    rw [hid k']
    exact h.fresh k' hk'

/-- Every action keeps registry and claims in agreement. -/
theorem Agrees.step (action : Action) : (c.step action).1.Agrees := by
  cases action with
  | register a => exact h.claim a .held
  | startBind a => exact h.claim a .binding
  | bindSucceeds id =>
    apply h.map_live
    · intro k
      split <;> rfl
    · intro k
      split <;> rfl
  | bindFails id =>
    simp only [Claims.step]
    cases hget : c.get? id with
    | none => exact h
    | some k =>
      have hk : k ∈ c.live := List.mem_of_find?_eq_some hget
      by_cases hstage : k.stage = .binding
      · simpa [hstage] using h.endClaim hk
      · simpa [hstage] using h
  | drop id =>
    simp only [Claims.step]
    cases hget : c.get? id with
    | none => exact h
    | some k => exact h.endClaim (List.mem_of_find?_eq_some hget)

end

/-- Actions come after those before them. -/
theorem run_append (c : Claims) (before after : List Action) :
    run c (before ++ after) = run (run c before) after :=
  List.foldl_append

/-- Binding in one go is a run of actions: the claim comes first, and then the bind succeeds or
fails. -/
theorem exists_serve_eq_run (c : Claims) (network : Network) (a : Address) :
    ∃ actions, (c.serve network a).1 = run c actions := by
  rw [serve]
  cases hstart : c.step (.startBind a) with
  | mk c' reply =>
    have hclaimed : ∀ action, run c [.startBind a, action] = (c'.step action).1 := by
      intro action
      simp [run, hstart]
    have hrefused : run c [.startBind a] = c' := by simp [run, hstart]
    cases reply with
    | claimed id =>
      cases hbind : network.bind a with
      | ok endpoint => exact ⟨_, (hclaimed (.bindSucceeds id)).symm⟩
      | error failure => exact ⟨_, (hclaimed (.bindFails id)).symm⟩
    | refused reason => exact ⟨_, hrefused.symm⟩
    | done => exact ⟨_, hrefused.symm⟩

/-- Whatever has happened, registry and claims agree. -/
theorem agrees_run (actions : List Action) : (run {} actions).Agrees := by
  induction actions using List.reverseRecOn with
  | nil => exact ⟨by simp [run, Held], by simp [run], by simp [run], by simp [run]⟩
  | append_singleton actions action ih =>
    rw [run_append]
    exact ih.step action

/-! ## Outcomes where registry and claims agree -/

section

variable {c : Claims} (h : c.Agrees) {a : Address}
include h

/-- Where an address is held, registering it and starting to bind it are refused and change
nothing. -/
theorem Agrees.step_of_held (hheld : c.Held a) {action : Action}
    (haction : action ∈ [Action.register a, .startBind a]) :
    c.step action = (c, .refused (.alreadyRegistered a)) := by
  obtain ⟨stage, hstep⟩ := exists_step_eq_claim (c := c) haction
  rw [hstep, claim_of_mem stage ((h.registered a).2 hheld)]

/-- Where nobody holds an address, registering it and starting to bind it add a claim on it. -/
theorem Agrees.step_of_not_held (hfree : ¬ c.Held a) {action : Action}
    (haction : action ∈ [Action.register a, .startBind a]) :
    ∃ k, k.address = a ∧ k ∉ c.live ∧ (c.step action).2 = .claimed k.id ∧
      c.Gains k (c.step action).1 := by
  obtain ⟨stage, hstep⟩ := exists_step_eq_claim (c := c) haction
  have hgains := h.claim_gains stage hfree
  rw [hstep]
  refine ⟨⟨c.next, a, stage⟩, rfl, fun hmem => hfree ⟨_, hmem, rfl⟩, ?_, hgains⟩
  obtain ⟨registry, -, hclaim⟩ := claim_of_notMem stage (h.notMem_bound hfree)
  rw [hclaim]

/-- Registering and starting to bind are refused as a second claim just if the address is held. -/
theorem Agrees.step_eq_alreadyRegistered_iff {action : Action}
    (haction : action ∈ [Action.register a, .startBind a]) :
    (c.step action).2 = .refused (.alreadyRegistered a) ↔ c.Held a := by
  constructor
  · intro hrefused
    by_contra hfree
    obtain ⟨k, -, -, hclaimed, -⟩ := h.step_of_not_held hfree haction
    simp [hclaimed] at hrefused
  · intro hheld
    rw [h.step_of_held hheld haction]

/-- The address of a claim that has ended is free, since no other claim was on it. -/
theorem Agrees.not_held_of_loses {k : Claim} {c' : Claims} (hk : k ∈ c.live)
    (hloses : c.Loses k c') : ¬ c'.Held k.address := by
  rintro ⟨k', hk', haddress⟩
  obtain ⟨hlive, hne⟩ := (hloses.live k').1 hk'
  exact hne (h.address_inj hlive hk haddress)

/-- Dropping a claim ends it. -/
theorem Agrees.step_drop {k : Claim} (hk : k ∈ c.live) :
    (c.step (.drop k.id)).1 = c.endClaim k := by
  simp only [Claims.step, h.get?_eq_some hk]

/-- A bind that fails ends its claim. -/
theorem Agrees.step_bindFails {k : Claim} (hk : k ∈ c.live) (hstage : k.stage = .binding) :
    (c.step (.bindFails k.id)).1 = c.endClaim k := by
  simp only [Claims.step, h.get?_eq_some hk, if_pos hstage]

/-- Of the live claims, an action ends at most the one that it is about. -/
theorem Agrees.exists_mem_live_step {k : Claim} (hk : k ∈ c.live) {action : Action}
    (hdrop : action ≠ .drop k.id) (hfails : action ≠ .bindFails k.id) :
    ∃ k' ∈ (c.step action).1.live, k'.id = k.id ∧ k'.address = k.address := by
  have hclaim : ∀ b stage, k ∈ (c.claim b stage).1.live := by
    intro b stage
    by_cases hheld : c.Held b
    · rw [claim_of_mem stage ((h.registered b).2 hheld)]
      exact hk
    · exact ((h.claim_gains stage hheld).live k).2 (.inr hk)
  have hend : ∀ other ∈ c.live, other.id ≠ k.id → k ∈ (c.endClaim other).live := by
    intro other hother hid
    refine ((h.endClaim_loses hother).live k).2 ⟨hk, ?_⟩
    rintro rfl
    exact hid rfl
  have hget : ∀ {id other}, c.get? id = some other → other ∈ c.live ∧ other.id = id := by
    intro id other hfound
    exact ⟨List.mem_of_find?_eq_some hfound, by simpa using List.find?_some hfound⟩
  cases action with
  | register b => exact ⟨k, hclaim b .held, rfl, rfl⟩
  | startBind b => exact ⟨k, hclaim b .binding, rfl, rfl⟩
  | bindSucceeds id =>
    refine ⟨_, List.mem_map_of_mem hk, ?_⟩
    split <;> exact ⟨rfl, rfl⟩
  | bindFails id =>
    refine ⟨k, ?_, rfl, rfl⟩
    simp only [Claims.step]
    cases hfound : c.get? id with
    | none => exact hk
    | some other =>
      obtain ⟨hother, rfl⟩ := hget hfound
      by_cases hstage : other.stage = .binding
      · simpa [hstage] using hend other hother fun hid => hfails (by rw [hid])
      · simpa [hstage] using hk
  | drop id =>
    refine ⟨k, ?_, rfl, rfl⟩
    simp only [Claims.step]
    cases hfound : c.get? id with
    | none => exact hk
    | some other =>
      obtain ⟨hother, rfl⟩ := hget hfound
      exact hend other hother fun hid => hdrop (by rw [hid])

/-! ### Binding in one go -/

variable {network : Network}

/-- Where an address is held, binding it is refused and changes nothing. -/
theorem Agrees.serve_of_held (hheld : c.Held a) :
    c.serve network a = (c, .error (.alreadyRegistered a)) := by
  have hstep : c.step (.startBind a) = (c, .refused (.alreadyRegistered a)) :=
    h.step_of_held hheld (by simp)
  rw [serve, hstep]

/-- A bind that fails leaves nothing behind but a used identifier. -/
theorem Agrees.serve_of_bind_eq_error (hfree : ¬ c.Held a) {failure : BindFailure}
    (hbind : network.bind a = .error failure) :
    c.serve network a = ({ c with next := c.next + 1 }, .error (failure.error a)) := by
  obtain ⟨registry, hbound, hclaim⟩ := claim_of_notMem .binding (h.notMem_bound hfree)
  have hagrees := h.claim a .binding
  rw [hclaim] at hagrees
  have hregistry : registry.release a = c.registry := by
    apply Registry.eq_of_bound_eq
    have hrelease : (registry.release a).bound = registry.bound.erase a := rfl
    rw [hrelease, hbound, List.erase_cons_head]
  have hlive : c.live.filter (·.id != c.next) = c.live := by
    refine List.filter_eq_self.2 fun k hk => ?_
    have hlt := h.fresh k hk
    simp only [bne_iff_ne]
    omega
  have hstart : c.step (.startBind a) = c.claim a .binding := rfl
  have hfails := hagrees.step_bindFails List.mem_cons_self rfl
  simp only [serve, hstart, hclaim, hbind, hfails]
  simp [Claims.endClaim, hregistry, hlive]

/-- A bind that succeeds leaves a claim that listens. -/
theorem Agrees.serve_of_bind_eq_ok (hfree : ¬ c.Held a) {endpoint : Endpoint}
    (hbind : network.bind a = .ok endpoint) :
    (c.serve network a).2 = .ok (c.next, endpoint) ∧
      c.Gains ⟨c.next, a, .listening⟩ (c.serve network a).1 := by
  have hgains := h.claim_gains .binding hfree
  have hnew : ⟨c.next, a, .binding⟩ ∉ c.live := fun hmem => hfree ⟨_, hmem, rfl⟩
  have hcompletes := (h.claim a .binding).step_bindSucceeds ((hgains.live _).2 (.inl rfl)) rfl
  have hserve : c.serve network a =
      (((c.claim a .binding).1.step (.bindSucceeds c.next)).1, .ok (c.next, endpoint)) := by
    obtain ⟨registry, -, hclaim⟩ := claim_of_notMem .binding (h.notMem_bound hfree)
    have hstart : c.step (.startBind a) = c.claim a .binding := rfl
    simp only [serve, hstart, hclaim, hbind]
  rw [hserve]
  exact ⟨rfl, hgains.trans_completes hcompletes hnew⟩

/-- Binding is refused as a second claim just if the address is held. -/
theorem Agrees.serve_eq_alreadyRegistered_iff :
    (c.serve network a).2 = .error (.alreadyRegistered a) ↔ c.Held a := by
  constructor
  · intro hrefused
    by_contra hfree
    cases hbind : network.bind a with
    | ok endpoint =>
      rw [(h.serve_of_bind_eq_ok hfree hbind).1] at hrefused
      simp at hrefused
    | error failure =>
      rw [h.serve_of_bind_eq_error hfree hbind] at hrefused
      cases failure <;> simp [BindFailure.error] at hrefused
  · intro hheld
    rw [h.serve_of_held hheld]

end

/-- The registry is the set of addresses of the live claims, whatever actions have come before and
in whatever order.  An address is registered just if a live claim is on it, one that is held,
binding or listening, and no two live claims are on one address.  Registering an address, starting
to bind it and binding it in one go (`bind_tcp`) are refused just if a live claim is on it; a
refusal leaves everything as it was.  Registering and starting to bind otherwise add one claim and
change nothing else.  Binding in one go is a run of actions itself, so all of this holds after it;
where no live claim is on the address it adds one claim, which listens, if the bind succeeds, and
none if it fails.  A bind that succeeds later keeps its claim, which then listens, and a bind that
fails later takes away its own claim and no other.  So does dropping a claim, whose address can then
be claimed again.  No other action ends a claim. -/
theorem registry_is_the_live_claims (actions : List Action) :
    let c := run {} actions
    (∀ a, c.registry.isRegistered a ↔ ∃ k ∈ c.live, k.address = a) ∧
    (∀ k ∈ c.live, ∀ k' ∈ c.live, k.address = k'.address → k = k') ∧
    (∀ a, ∀ action ∈ [Action.register a, .startBind a],
      ((c.step action).2 = .refused (.alreadyRegistered a) ↔ ∃ k ∈ c.live, k.address = a) ∧
      ((c.step action).2 = .refused (.alreadyRegistered a) → (c.step action).1 = c) ∧
      ((¬ ∃ k ∈ c.live, k.address = a) → ∃ k, k.address = a ∧ k ∉ c.live ∧
        (c.step action).2 = .claimed k.id ∧ c.Gains k (c.step action).1)) ∧
    (∀ a (network : Network),
      (∃ more, (c.serve network a).1 = run {} (actions ++ more)) ∧
      ((c.serve network a).2 = .error (.alreadyRegistered a) ↔ ∃ k ∈ c.live, k.address = a) ∧
      ((c.serve network a).2 = .error (.alreadyRegistered a) → (c.serve network a).1 = c) ∧
      (∀ endpoint, network.bind a = .ok endpoint → (¬ ∃ k ∈ c.live, k.address = a) →
        ∃ k, k.address = a ∧ k.stage = .listening ∧ k ∉ c.live ∧
          (c.serve network a).2 = .ok (k.id, endpoint) ∧ c.Gains k (c.serve network a).1) ∧
      ∀ failure, network.bind a = .error failure → (¬ ∃ k ∈ c.live, k.address = a) →
        c.serve network a = ({ c with next := c.next + 1 }, .error (failure.error a))) ∧
    (∀ k ∈ c.live, k.stage = .binding → c.Completes k (c.step (.bindSucceeds k.id)).1 ∧
      c.Loses k (c.step (.bindFails k.id)).1) ∧
    (∀ k ∈ c.live, c.Loses k (c.step (.drop k.id)).1 ∧
      ∀ action ∈ [Action.register k.address, .startBind k.address],
        ∃ id, ((c.step (.drop k.id)).1.step action).2 = .claimed id) ∧
    ∀ k ∈ c.live, ∀ action, action ≠ .drop k.id → action ≠ .bindFails k.id →
      ∃ k' ∈ (c.step action).1.live, k'.id = k.id ∧ k'.address = k.address := by
  intro c
  have h : c.Agrees := agrees_run actions
  refine ⟨?_, ?_, ?_, ?_, ?_, ?_, ?_⟩
  · intro a
    rw [Registry.isRegistered_iff]
    exact h.registered a
  · intro k hk k' hk'
    exact h.address_inj hk hk'
  · intro a action haction
    have hrefused := h.step_eq_alreadyRegistered_iff haction
    refine ⟨hrefused, ?_, fun hfree => h.step_of_not_held hfree haction⟩
    intro hreply
    rw [h.step_of_held (hrefused.1 hreply) haction]
  · intro a network
    refine ⟨?_, h.serve_eq_alreadyRegistered_iff, ?_, ?_, ?_⟩
    · obtain ⟨more, hserve⟩ := exists_serve_eq_run c network a
      exact ⟨more, by rw [hserve, run_append]⟩
    · intro hreply
      rw [h.serve_of_held (h.serve_eq_alreadyRegistered_iff.1 hreply)]
    · intro endpoint hbind hfree
      obtain ⟨hreply, hgains⟩ := h.serve_of_bind_eq_ok hfree hbind
      exact ⟨_, rfl, rfl, fun hmem => hfree ⟨_, hmem, rfl⟩, hreply, hgains⟩
    · intro failure hbind hfree
      exact h.serve_of_bind_eq_error hfree hbind
  · intro k hk hstage
    refine ⟨h.step_bindSucceeds hk hstage, ?_⟩
    rw [h.step_bindFails hk hstage]
    exact h.endClaim_loses hk
  · intro k hk
    have hloses : c.Loses k (c.step (.drop k.id)).1 := by
      rw [h.step_drop hk]
      exact h.endClaim_loses hk
    refine ⟨hloses, ?_⟩
    intro action haction
    have hfree := h.not_held_of_loses hk hloses
    obtain ⟨k', -, -, hclaimed, -⟩ := (h.step (.drop k.id)).step_of_not_held hfree haction
    exact ⟨k'.id, hclaimed⟩
  · intro k hk action hdrop hfails
    exact h.exists_mem_live_step hk hdrop hfails

/-- While a server binds port 5000 and port 5001 is held, a second server for port 5000 is refused
and nothing else happens; once the first bind has failed, port 5000 is free and port 5001 is not. -/
theorem failed_bind_frees_its_port :
    let a : Address := ⟨"localhost", 5000⟩
    let b : Address := ⟨"localhost", 5001⟩
    let c := run {} [.startBind a, .register b]
    let failed := (c.step (.bindFails 0)).1
    ⟨0, a, .binding⟩ ∈ c.live ∧
    c.step (.startBind a) = (c, .refused (.alreadyRegistered a)) ∧
    ¬ failed.registry.isRegistered a ∧ failed.registry.isRegistered b ∧
    ∃ id, (failed.step (.register a)).2 = .claimed id := by
  intro a b c failed
  have hbinding : ⟨0, a, .binding⟩ ∈ c.live := by decide
  obtain ⟨hlive, -, hclaims, -, hfails, -, -⟩ :=
    registry_is_the_live_claims [.startBind a, .register b]
  obtain ⟨hrefused, hunchanged, -⟩ := hclaims a (.startBind a) (by simp)
  have hreply := hrefused.2 ⟨_, hbinding, rfl⟩
  have hloses : c.Loses ⟨0, a, .binding⟩ failed := (hfails _ hbinding rfl).2
  have hfree : ¬ failed.registry.isRegistered a := fun h => ((hloses.registered a).1 h).2 rfl
  have hkept : failed.registry.isRegistered b :=
    (hloses.registered b).2 ⟨(hlive b).2 ⟨⟨1, b, .held⟩, by decide, rfl⟩, by decide⟩
  obtain ⟨hlive, -, hclaims, -⟩ :=
    registry_is_the_live_claims [.startBind a, .register b, .bindFails 0]
  obtain ⟨-, -, hclaimed⟩ := hclaims a (.register a) (by simp)
  obtain ⟨k, -, -, hreply', -⟩ := hclaimed fun hheld => hfree ((hlive a).2 hheld)
  exact ⟨hbinding, Prod.ext (hunchanged hreply) hreply, hfree, hkept, k.id, hreply'⟩

end Claims

end DocSignature.Listening
