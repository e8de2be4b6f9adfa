import LeaseRoster.Proofs.PublishedOrder
import LeaseRoster.Proofs.RepeatedWrites

/-!
# Enriched batches

A batch is enriched lease by lease and then sorted, so that its leases may come in any order if
no two of them agree in both addresses.  The clients are then tracked in the order of the list;
of several leases of one client the last one counts, which is the one with the greatest internet
address.  Hence neither the list nor the history depends on the order of the batch, and the same
batch at the same time leaves the history as it is.
-/

namespace LeaseRoster

namespace Octets

/-- Bytes come no later than others if the others do not come before them. -/
theorem le_iff_not_lt (left right : Octets) : le left right = true ↔ ¬ right < left := by
  fun_induction le left right with
  | case1 right => simp
  | case2 => simp
  | case3 byte bytes last rest less =>
    have notMore : ¬ last < byte := UInt8.lt_asymm less
    have apart : last ≠ byte := (UInt8.ne_of_lt less).symm
    simp [List.cons_lt_cons_iff, notMore, apart]
  | case4 byte bytes last rest notLess more => simp [List.cons_lt_cons_iff, more]
  | case5 byte bytes last rest notLess notMore ih =>
    have same : last = byte :=
      UInt8.le_antisymm (UInt8.not_lt.mp notLess) (UInt8.not_lt.mp notMore)
    subst same
    simp [ih]

end Octets

namespace IpAddress

theorem lt_octets_iff (left right : IpAddress) :
    left.octets < right.octets ↔ left.number < right.number := by
  rw [← not_le, ← le_octets_iff, Octets.le_iff_not_lt, not_not]

end IpAddress

namespace Lease

/-- What leases are sorted by: the bytes of the internet address, and the hardware address. -/
def key (lease : Lease) : Octets × MacAddress := (lease.address.octets, lease.mac)

end Lease

namespace LiveClient

/-- Whether a client comes no later than another one: the bytes of its internet address come
first, or they are the same and its hardware address is not the greater text. -/
def Precedes (left right : LiveClient) : Prop :=
  left.lease.address.octets < right.lease.address.octets ∨
    left.lease.address.octets = right.lease.address.octets ∧
      left.lease.mac.toString ≤ right.lease.mac.toString

theorem le_iff_precedes (left right : LiveClient) :
    left.le right = true ↔ left.Precedes right := by
  have macs : left.lease.mac.toString ≤ right.lease.mac.toString ↔
      left.lease.mac.value ≤ right.lease.mac.value := by
    rw [← not_lt, MacAddress.toString_lt_iff, not_lt]
  rw [le_iff, Precedes, IpAddress.lt_octets_iff, ← IpAddress.number_eq_iff, macs]

theorem key_eq_of_le_of_le {left right : LiveClient} (before : left.le right = true)
    (behind : right.le left = true) : left.lease.key = right.lease.key := by
  rw [le_iff] at before behind
  have addresses : left.lease.address.number = right.lease.address.number := by omega
  have numbers : left.lease.mac.value = right.lease.mac.value := by omega
  rw [Lease.key, Lease.key, (IpAddress.number_eq_iff _ _).mp addresses,
    MacAddress.value_injective numbers]

theorem le_of_key_eq {left right : LiveClient} (same : left.lease.key = right.lease.key) :
    left.le right = true := by
  obtain ⟨addresses, macs⟩ := Prod.mk.inj same
  rw [le_iff, (IpAddress.number_eq_iff _ _).mpr addresses, macs]
  exact Or.inr ⟨rfl, le_rfl⟩

theorem pairwise_mergeSort_le (clients : List LiveClient) :
    (clients.mergeSort le).Pairwise fun left right => left.le right = true := by
  apply List.pairwise_mergeSort
  · intro first second third earlier later
    exact le_trans earlier later
  · exact le_total

/-- Sorting keeps the order of clients with one key. -/
theorem filter_key_mergeSort (clients : List LiveClient) (key : Octets × MacAddress) :
    (clients.mergeSort le).filter (fun client => client.lease.key = key) =
      clients.filter fun client => client.lease.key = key := by
  let own := clients.filter fun client => client.lease.key = key
  have alike : own.Pairwise fun left right => left.le right = true := by
    apply List.pairwise_of_forall_mem_list
    intro left first right second
    have leftKey := of_decide_eq_true (List.mem_filter.mp first).2
    have rightKey := of_decide_eq_true (List.mem_filter.mp second).2
    exact le_of_key_eq (leftKey.trans rightKey.symm)
  -- Clients with one key are sorted already, and a stable sort leaves them in their order.
  have kept : own.Sublist (clients.mergeSort le) := by
    apply List.sublist_mergeSort
    · intro first second third earlier later
      exact le_trans earlier later
    · exact le_total
    · exact alike
    · exact List.filter_sublist
  have inside := kept.filter fun client => client.lease.key = key
  rw [List.filter_filter] at inside
  simp only [Bool.and_self] at inside
  have counted := ((List.mergeSort_perm clients le).filter fun client =>
    client.lease.key = key).length_eq
  exact (inside.eq_of_length counted.symm).symm

end LiveClient

namespace Reconciler

section Batch

variable (reconciler : Reconciler) {leases : List Lease}

theorem enrich_perm (leases : List Lease) :
    (reconciler.enrich leases).Perm (leases.map reconciler.enrichLease) :=
  List.mergeSort_perm _ _

theorem pairwise_enrich (leases : List Lease) :
    (reconciler.enrich leases).Pairwise LiveClient.Precedes := by
  apply (LiveClient.pairwise_mergeSort_le _).imp
  intro left right before
  exact (LiveClient.le_iff_precedes left right).mp before

theorem filter_key_enrich (leases : List Lease) (key : Octets × MacAddress) :
    (reconciler.enrich leases).filter (fun client => client.lease.key = key) =
      (leases.filter fun lease => lease.key = key).map reconciler.enrichLease := by
  rw [enrich, LiveClient.filter_key_mergeSort, List.filter_map]
  rfl

/-- Of several leases of a client the one with the greatest internet address is written last. -/
theorem lastRecord?_enrich {mac : MacAddress} (seen : mac ∈ leases.map Lease.mac) (now : Moment)
    (epoch : Int) :
    ∃ lease ∈ leases, lease.mac = mac ∧
      (∀ other ∈ leases, other.mac = mac → other.address.octets = lease.address.octets ∨
        other.address.octets < lease.address.octets) ∧
      LiveClient.lastRecord? mac now epoch (reconciler.enrich leases) =
        some (lease.entryAt now epoch) := by
  obtain ⟨lease, inBatch, rfl⟩ := List.mem_map.mp seen
  have member := (reconciler.mem_enrich_iff leases _).mpr ⟨lease, inBatch, rfl⟩
  have present : ((reconciler.enrich leases).reverse.find? fun client =>
      client.lease.mac = lease.mac).isSome = true := by
    rw [List.find?_isSome]
    exact ⟨_, List.mem_reverse.mpr member, decide_eq_true rfl⟩
  obtain ⟨last, found⟩ := Option.isSome_iff_exists.mp present
  obtain ⟨own, behind, before, split, foreign⟩ := List.find?_eq_some_iff_append.mp found
  have listed : last ∈ reconciler.enrich leases :=
    List.mem_reverse.mp (List.mem_of_find?_eq_some found)
  obtain ⟨winner, inLeases, rfl⟩ := (reconciler.mem_enrich_iff leases last).mp listed
  refine ⟨winner, inLeases, of_decide_eq_true own, fun other inOthers alike => ?_, ?_⟩
  · -- Behind the last client of that address there are others only.
    have sorted := List.pairwise_reverse.mpr (reconciler.pairwise_enrich leases)
    rw [split] at sorted
    have reached : reconciler.enrichLease other ∈
        behind ++ reconciler.enrichLease winner :: before := by
      rw [← split, List.mem_reverse, reconciler.mem_enrich_iff]
      exact ⟨other, inOthers, rfl⟩
    rcases List.mem_append.mp reached with early | late
    · have apart := foreign _ early
      simp [enrichLease, alike] at apart
    · rcases List.mem_cons.mp late with same | earlier
      · have address : other.address = winner.address :=
          congrArg (fun client => client.lease.address) same
        exact Or.inl (congrArg IpAddress.octets address)
      · have precedes := (List.pairwise_cons.mp (List.pairwise_append.mp sorted).2.1).1 _ earlier
        rcases precedes with less | ⟨equal, -⟩
        · exact Or.inr less
        · exact Or.inl equal
  · rw [LiveClient.lastRecord?, found]
    rfl

/-- A batch may come in any order if no two of its leases have one key. -/
theorem enrich_eq_of_perm {others : List Lease} (same : leases.Perm others)
    (distinct : (leases.map Lease.key).Nodup) :
    reconciler.enrich others = reconciler.enrich leases := by
  have clients := (reconciler.enrich_perm others).trans
    ((same.symm.map reconciler.enrichLease).trans (reconciler.enrich_perm leases).symm)
  refine List.Perm.eq_of_pairwise ?_ (LiveClient.pairwise_mergeSort_le _)
    (LiveClient.pairwise_mergeSort_le _) clients
  intro left right first second before behind
  obtain ⟨lease, inOthers, rfl⟩ := (reconciler.mem_enrich_iff others left).mp first
  obtain ⟨other, inLeases, rfl⟩ := (reconciler.mem_enrich_iff leases right).mp second
  have keys : lease.key = other.key := LiveClient.key_eq_of_le_of_le before behind
  rw [List.inj_on_of_nodup_map distinct (same.mem_iff.mpr inOthers) inLeases keys]

end Batch

end Reconciler

namespace Schedule.Session

theorem roster_update (session : Session) (feed : Feed.Outcome)
    (steps : List LiveClient → List Roster.Step) :
    (session.update feed steps).1.roster =
      (session.roster.performAll (Roster.writeSighting session.reconciler.epoch)
        (steps (session.reconciler.enrich feed.leases))).roster := by
  have same := (performAll_eq_roster (session.note (feed.notices ++
    session.reconciler.enrichNotices feed.leases))
      (steps (session.reconciler.enrich feed.leases))).1
  change _ = (session.roster.performAll (Roster.writeSighting session.reconciler.epoch) _).roster
    at same
  rw [← same]
  unfold update
  dsimp only
  generalize performAll _ _ = done
  obtain ⟨next, fault⟩ := done
  cases fault <;> rfl

/-- The steps with which the leases of a feed are enriched. -/
def enrichSteps (session : Session) (leases : List Lease) (tracked : Bool) : List Roster.Step :=
  if tracked then Roster.trackSteps session.clock (session.reconciler.enrich leases) else []

/-- An enrichment answers the list unless it is stopped, and leaves what its steps leave. -/
theorem enrich_eq (session : Session) (feed : Feed.Outcome) (tracked : Bool) :
    let performed := session.roster.performAll (Roster.writeSighting session.reconciler.epoch)
      (session.enrichSteps feed.leases tracked)
    (session.enrich feed tracked).1.roster = performed.roster ∧
      (session.enrich feed tracked).2 =
        match performed.fault with
        | none => .ok (.live (session.reconciler.enrich feed.leases))
        | some fault => .error fault :=
  ⟨session.roster_update feed _, session.answer_update feed _⟩

theorem enrichSteps_enrich (session : Session) (feed : Feed.Outcome) (tracked : Bool) :
    (session.enrich feed tracked).1.enrichSteps feed.leases tracked =
      session.enrichSteps feed.leases tracked := by
  have frames : Frames session (session.enrich feed tracked).1 := session.frames_update feed _
  rw [enrichSteps, enrichSteps, frames.clock, frames.reconciler]

theorem enrich_again (session : Session) (feed : Feed.Outcome) (tracked : Bool) :
    ((session.enrich feed tracked).1.enrich feed tracked).2 = (session.enrich feed tracked).2 ∧
      ((session.enrich feed tracked).1.enrich feed tracked).1.roster =
        (session.enrich feed tracked).1.roster := by
  have frames : Frames session (session.enrich feed tracked).1 := session.frames_update feed _
  obtain ⟨next, answered⟩ := session.enrich_eq feed tracked
  obtain ⟨last, answeredAgain⟩ := (session.enrich feed tracked).1.enrich_eq feed tracked
  rw [enrichSteps_enrich, frames.reconciler, next] at last answeredAgain
  rw [answeredAgain, last, answered, next]
  cases tracked with
  | false => exact ⟨rfl, rfl⟩
  | true =>
    obtain ⟨same, ended⟩ := session.roster.performAll_trackSteps_again session.reconciler.epoch
      session.clock (session.reconciler.enrich feed.leases)
    refine ⟨?_, same⟩
    simp only [enrichSteps, if_true]
    rw [ended]

/-- Nothing stops the enrichment of a batch: it is not tracked, or all that is written about it
can be stored. -/
def GoesThrough (session : Session) (leases : List Lease) (tracked : Bool) : Prop :=
  tracked = false ∨ session.clock.toUniversal?.isSome = true ∧
    fitsWord session.reconciler.epoch = true ∧ ∀ lease ∈ leases, lease.isStorable = true

theorem enrich_of_goesThrough {session : Session} {feed : Feed.Outcome} {tracked : Bool}
    (goes : session.GoesThrough feed.leases tracked) :
    (session.enrich feed tracked).2 = .ok (.live (session.reconciler.enrich feed.leases)) := by
  rw [(session.enrich_eq feed tracked).2]
  have unstopped : (session.roster.performAll (Roster.writeSighting session.reconciler.epoch)
      (session.enrichSteps feed.leases tracked)).fault = none := by
    rcases goes with rfl | ⟨convertible, fits, storable⟩
    · rfl
    · cases tracked with
      | false => rfl
      | true =>
        apply Roster.fault_performAll
        intro step member roster
        obtain ⟨client, listed, rfl⟩ := List.mem_map.mp member
        exact Roster.fault_sight fits convertible roster
          (session.reconciler.isStorable_of_mem_enrich storable listed)
  rw [unstopped]

/-- What an open history knows of a client behind a tracked batch. -/
theorem recorded?_enrich {session : Session} {feed : Feed.Outcome}
    (goes : session.GoesThrough feed.leases true) (usable : session.roster.history.isOpen = true)
    {mac : MacAddress} (seen : mac ∈ feed.leases.map Lease.mac) :
    ∃ lease ∈ feed.leases, lease.mac = mac ∧
      (∀ other ∈ feed.leases, other.mac = mac → other.address.octets = lease.address.octets ∨
        other.address.octets < lease.address.octets) ∧
      (session.enrich feed true).1.roster.history.recorded? mac =
        some (lease.entryAt session.clock session.reconciler.epoch) := by
  obtain ⟨convertible, fits, storable⟩ := goes.resolve_left nofun
  obtain ⟨lease, inBatch, own, greatest, last⟩ := session.reconciler.lastRecord?_enrich seen
    session.clock session.reconciler.epoch
  refine ⟨lease, inBatch, own, greatest, ?_⟩
  obtain ⟨history, -, performed, recorded⟩ := Roster.performAll_trackSteps_eq session.roster
    usable convertible session.reconciler.epoch (session.reconciler.enrich feed.leases)
  have granted := (LiveClient.firstRefusal?_enrich_eq_none_iff session.reconciler
    feed.leases).mpr ⟨storable, Or.inr fits⟩
  have left : (session.enrich feed true).1.roster = session.roster.withHistory history :=
    (session.enrich_eq feed true).1.trans (congrArg Roster.Outcome.roster performed)
  rw [left]
  refine (recorded mac).trans ?_
  rw [LiveClient.untilRefusal_of_none granted, last, Option.some_or]

/-- Enrichment is a sorted map over the leases of a batch, in whatever order they come, and doing
it again changes nothing.  It answers the list unless a write is stopped, which storable leases
never are in a server run whose number fits a word, open or closed as the history may be.  The
list has the enrichment of every lease, by the bytes of the internet address and then by the
hardware address, and those that agree in both stand as in the batch.  If no two leases of the
batch agree in both, every order of it leads to the same answer and the same history, and an
open history then knows of each client what the lease with the greatest internet address says.
The same batch at the same time is answered in the same way and leaves the history as it is. -/
theorem enrich_sorted_and_idempotent (session : Session) (feed : Feed.Outcome) (tracked : Bool) :
    let reconciler := session.reconciler
    let clients := reconciler.enrich feed.leases
    let done := session.enrich feed tracked
    (done.2 = .ok (.live clients) ∨ ∃ fault, done.2 = .error fault) ∧
    (session.GoesThrough feed.leases tracked → done.2 = .ok (.live clients)) ∧
    clients.Perm (feed.leases.map reconciler.enrichLease) ∧
    clients.Pairwise LiveClient.Precedes ∧
    (∀ key, clients.filter (fun client => client.lease.key = key) =
      (feed.leases.filter fun lease => lease.key = key).map reconciler.enrichLease) ∧
    (∀ other : Feed.Outcome, feed.leases.Perm other.leases →
      (feed.leases.map Lease.key).Nodup →
      reconciler.enrich other.leases = clients ∧
        (session.enrich other tracked).2 = done.2 ∧
        (session.enrich other tracked).1.roster = done.1.roster) ∧
    (tracked = true → session.GoesThrough feed.leases true →
      session.roster.history.isOpen = true →
      ∀ mac ∈ feed.leases.map Lease.mac, ∃ lease ∈ feed.leases, lease.mac = mac ∧
        (∀ other ∈ feed.leases, other.mac = mac → other.address.octets = lease.address.octets ∨
          other.address.octets < lease.address.octets) ∧
        done.1.roster.history.recorded? mac =
          some (lease.entryAt session.clock reconciler.epoch)) ∧
    (done.1.enrich feed tracked).2 = done.2 ∧
    (done.1.enrich feed tracked).1.roster = done.1.roster := by
  intro reconciler clients done
  refine ⟨?_, enrich_of_goesThrough, reconciler.enrich_perm feed.leases,
    reconciler.pairwise_enrich feed.leases, reconciler.filter_key_enrich feed.leases, ?_, ?_,
    session.enrich_again feed tracked⟩
  · rw [show done.2 = _ from (session.enrich_eq feed tracked).2]
    split
    · exact Or.inl rfl
    · exact Or.inr ⟨_, rfl⟩
  · intro other same distinct
    have sorted := reconciler.enrich_eq_of_perm same distinct
    have steps : session.enrichSteps other.leases tracked =
        session.enrichSteps feed.leases tracked := by
      rw [enrichSteps, enrichSteps, sorted]
    obtain ⟨left, answered⟩ := session.enrich_eq other tracked
    rw [steps] at left answered
    refine ⟨sorted, ?_, left.trans (session.enrich_eq feed tracked).1.symm⟩
    rw [answered, sorted]
    exact (session.enrich_eq feed tracked).2.symm
  · rintro rfl goes usable mac seen
    exact recorded?_enrich goes usable seen

end Schedule.Session

end LeaseRoster
