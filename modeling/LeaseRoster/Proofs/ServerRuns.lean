import LeaseRoster.Proofs.LatestSightings
import LeaseRoster.Proofs.UpdateRuns
import Mathlib.Data.List.Chain

/-!
# Runs of the server over one history

Each run of the server begins with an empty list, over the history that the runs before it
left, and under a number of its own that is greater than all numbers before.  A run may end
anywhere, also in the middle of a batch.  Throughout a run an entry of the ledger has the
number of the run exactly if its client was published in the run and has been written since,
and a smaller number otherwise; so the notes of past clients can be told from that number.
-/

namespace LeaseRoster

namespace Happening

theorem everPublished_iff (mac : MacAddress) (happenings : List Happening) :
    everPublished mac happenings = true ↔
      ∃ batch, .published batch ∈ happenings ∧ mac ∈ batch.map Lease.mac := by
  induction happenings with
  | nil => simp [everPublished]
  | cons latest earlier ih =>
    cases latest with
    | published batch => simp [everPublished, ih]
    | written other => simpa [everPublished] using ih
    | purged macs => simpa [everPublished] using ih

end Happening

namespace UpdateRun

/-- No entry has a greater number than the present run, and the entry of a client that does
not wait to be written has that number exactly if the client was published in the run. -/
def Dated (reconciler : Reconciler) (run : UpdateRun) (ledger : Ledger)
    (awaiting : List MacAddress) : Prop :=
  ∀ mac entry, ledger.find? mac = some entry →
    entry.epoch ≤ reconciler.epoch ∧
      (mac ∉ awaiting →
        (entry.epoch = reconciler.epoch ↔
          Happening.everPublished mac run.happenings = true))

theorem dated_initial (reconciler : Reconciler) (history : History) {ledger : Ledger}
    (older : ∀ mac entry, ledger.find? mac = some entry → entry.epoch < reconciler.epoch) :
    Dated reconciler (initial history) ledger [] := by
  intro mac entry found
  have before := older mac entry found
  refine ⟨by omega, fun _ => ?_⟩
  have other : entry.epoch ≠ reconciler.epoch := by omega
  simp [initial, Happening.everPublished, other]

section Dated

variable {reconciler : Reconciler} {known : MacAddress → Prop} {run next : UpdateRun}
  {ledger left : Ledger} {awaiting waiting : List MacAddress}

theorem Dated.change (dated : Dated reconciler run ledger awaiting)
    (accounted : Accounted reconciler known run ledger awaiting)
    (change : Change reconciler run next ledger awaiting left waiting) :
    Dated reconciler next left waiting := by
  intro mac entry found
  cases change with
  | silent listed told =>
    rw [told]
    exact dated mac entry found
  | published listed told =>
    -- Nobody of the batch before still waits, and the clients of the new batch all do.
    obtain ⟨bounded, settles⟩ := dated mac entry found
    refine ⟨bounded, fun settled => ?_⟩
    rw [reconciler.mem_macs_enrich_iff] at settled
    rw [settles List.not_mem_nil, told]
    simp only [Happening.everPublished, settled, decide_false, Bool.false_or]
  | written client now member listed told =>
    rw [told]
    rw [Index.find?_insert] at found
    by_cases own : client.lease.mac = mac
    · -- The client was published in this run, and its entry is the one just written.
      subst own
      rw [if_pos rfl] at found
      obtain rfl := Option.some.inj found
      have ever := accounted.everPublished_of_mem member
      exact ⟨le_refl reconciler.epoch, fun _ => iff_of_true rfl ever⟩
    · rw [if_neg own] at found
      obtain ⟨bounded, settles⟩ := dated mac entry found
      refine ⟨bounded, fun settled => settles ?_⟩
      rw [List.mem_cons, not_or]
      exact ⟨Ne.symm own, settled⟩
  | purged macs listed told kept same =>
    rw [told]
    exact dated mac entry (same mac entry found)

end Dated

end UpdateRun

/-- A run of the server: what is configured in it, its number included, and what happens in
it. -/
structure ServerRun where
  reconciler : Reconciler
  events : List UpdateRun.Event

namespace ServerRun

def epoch (server : ServerRun) : Int := server.reconciler.epoch

/-- Whether the number of a server run and all that its events bring can be stored, within the limit
of `Lease.isStorable`. -/
def isStorable (server : ServerRun) : Bool :=
  fitsWord server.epoch && server.events.all UpdateRun.Event.isStorable

/-- What becomes of a history in a server run. -/
def play (server : ServerRun) (history : History) : UpdateRun :=
  (UpdateRun.initial history).runAll server.reconciler server.events

/-- The history that some server runs leave behind, one after the other. -/
def historyBehind (history : History) (servers : List ServerRun) : History :=
  servers.foldl (fun history server => (server.play history).roster.history) history

/-- A run over older entries is accounted for, with entries that are not newer than it. -/
theorem play_dated {server : ServerRun} (storable : server.isStorable = true)
    {history : History} {ledger : Ledger} (mirrors : history.Mirrors ledger)
    (older : ∀ mac entry, ledger.find? mac = some entry → entry.epoch < server.epoch) :
    ∃ left waiting,
      UpdateRun.Accounted server.reconciler (· ∈ ledger.keys) (server.play history) left
        waiting ∧
      UpdateRun.Dated server.reconciler (server.play history) left waiting := by
  simp only [isStorable, Bool.and_eq_true, List.all_eq_true] at storable
  exact (UpdateRun.accounted_initial server.reconciler mirrors).runAll storable.1
    (fun accounted change dated => dated.change accounted change)
    (UpdateRun.dated_initial server.reconciler history older) storable.2

/-- Server runs with ascending numbers leave a history that is older than the next run. -/
theorem historyBehind_older (path : String) (servers : List ServerRun) {next : ServerRun}
    (ascending : (servers ++ [next]).IsChain fun before after => before.epoch < after.epoch)
    (storable : ∀ server ∈ servers, server.isStorable = true) :
    ∃ ledger, (historyBehind (History.create path) servers).Mirrors ledger ∧
      ∀ mac entry, ledger.find? mac = some entry → entry.epoch < next.epoch := by
  induction servers using List.reverseRecOn generalizing next with
  | nil => exact ⟨Index.empty, History.mirrors_create path, by simp⟩
  | append_singleton servers last ih =>
    obtain ⟨before, -, steps⟩ := List.isChain_append.mp ascending
    have greater : last.epoch < next.epoch := steps last (by simp) next (by simp)
    obtain ⟨ledger, mirrors, older⟩ := ih before fun server member =>
      storable server (List.mem_append_left _ member)
    obtain ⟨left, waiting, accounted, dated⟩ :=
      play_dated (storable last (by simp)) mirrors older
    rw [historyBehind, List.foldl_append]
    refine ⟨left, accounted.mirrors, fun mac entry found => ?_⟩
    have bounded : entry.epoch ≤ last.epoch := (dated mac entry found).1
    omega

end ServerRun

namespace Reconciler

/-- The notes tell the three orders of two numbers apart. -/
theorem orderNote_injective :
    Function.Injective fun order : Ordering => orderNote (some order) := by
  intro first second
  cases first <;> cases second <;> decide

theorem note_describePast_iff (reconciler : Reconciler) (sighting : Sighting)
    (order : Ordering) :
    (reconciler.describePast sighting).note = orderNote (some order) ↔
      compare sighting.epoch reconciler.epoch = order :=
  orderNote_injective.eq_iff

end Reconciler

namespace ServerRun

/-- The history is carried through any number of server runs with ascending numbers.  In any
snapshot of the last of them, whenever it is taken, no past client is tagged with a number
that is inconsistent; a past client is said to have been seen after the last restart exactly
if it was in a batch that was published in this run, and to have been seen in a previous run
otherwise. -/
theorem notes_tell_runs (path : String) (earlier : List ServerRun) (present : ServerRun)
    (ascending :
      (earlier ++ [present]).IsChain fun before after => before.epoch < after.epoch)
    (storable : ∀ server ∈ earlier ++ [present], server.isStorable = true) (now : Moment) :
    let run := present.play (historyBehind (History.create path) earlier)
    ∀ client ∈ (run.roster.snapshot present.reconciler now).value.past,
      client.note ≠ Reconciler.orderNote (some .gt) ∧
      (client.note = Reconciler.orderNote (some .eq) ↔
        ∃ batch, .published batch ∈ run.happenings ∧
          client.sighting.mac ∈ batch.map Lease.mac) ∧
      (client.note = Reconciler.orderNote (some .lt) ↔
        ¬ ∃ batch, .published batch ∈ run.happenings ∧
          client.sighting.mac ∈ batch.map Lease.mac) := by
  intro run client member
  obtain ⟨ledger, mirrors, older⟩ := historyBehind_older path earlier ascending
    fun server inEarlier => storable server (List.mem_append_left _ inEarlier)
  obtain ⟨left, waiting, accounted, dated⟩ :=
    play_dated (storable present (by simp)) mirrors older
  obtain ⟨described, gone, found⟩ :=
    present.reconciler.sighting_of_mem_pastClients accounted.mirrors member
  obtain ⟨bounded, settles⟩ := dated _ _ found
  have settled : client.sighting.mac ∉ waiting := fun waits =>
    gone (accounted.stage.mem_published waits)
  have current : client.sighting.epoch = present.reconciler.epoch ↔
      ∃ batch, .published batch ∈ run.happenings ∧
        client.sighting.mac ∈ batch.map Lease.mac := by
    rw [← Happening.everPublished_iff]
    exact settles settled
  have ordered : client.sighting.epoch ≤ present.reconciler.epoch := bounded
  have noted (order : Ordering) : client.note = Reconciler.orderNote (some order) ↔
      compare client.sighting.epoch present.reconciler.epoch = order := by
    have description := present.reconciler.note_describePast_iff client.sighting order
    rwa [described] at description
  refine ⟨?_, ?_, ?_⟩
  · rw [ne_eq, noted, compare_gt_iff_gt]
    omega
  · rw [noted, compare_eq_iff_eq, current]
  · rw [noted, compare_lt_iff_lt, ← current]
    omega

/-- A client is seen in two server runs, and then no longer in the second one. -/
theorem notes_after_second_sight :
    let lease : Lease := ⟨⟨List.replicate 12 7, rfl⟩, .v4 1, "printer", none, none⟩
    let configured (epoch : Int) : Reconciler := ⟨⟨[]⟩, Registry.empty, epoch, "lan", 1⟩
    let clock : Moment := ⟨0, some 0, by decide⟩
    let seen : List UpdateRun.Event := [.takeUp [lease] clock, .proceed, .proceed, .proceed]
    let before : ServerRun := ⟨configured 3, seen⟩
    let present : ServerRun := ⟨configured 4, seen ++ [.takeUp [] clock, .proceed]⟩
    let run := present.play (historyBehind (History.create "clients.db") [before])
    let past := (run.roster.snapshot present.reconciler clock).value.past
    ([before, present].IsChain fun before after => before.epoch < after.epoch) ∧
      (∀ server ∈ [before, present], server.isStorable = true) ∧
      past.map (fun client => client.sighting.mac) = [lease.mac] ∧
      ∀ client ∈ past,
        client.note ≠ Reconciler.orderNote (some .gt) ∧
        (client.note = Reconciler.orderNote (some .eq) ↔
          ∃ batch, .published batch ∈ run.happenings ∧
            client.sighting.mac ∈ batch.map Lease.mac) ∧
        (client.note = Reconciler.orderNote (some .lt) ↔
          ¬ ∃ batch, .published batch ∈ run.happenings ∧
            client.sighting.mac ∈ batch.map Lease.mac) := by
  intro lease configured clock seen before present run past
  have ascending : [before, present].IsChain fun before after => before.epoch < after.epoch := by
    decide
  have storable : ∀ server ∈ [before, present], server.isStorable = true := by decide
  have listed : past.map (fun client => client.sighting.mac) = [lease.mac] := by
    decide +kernel
  exact ⟨ascending, storable, listed,
    notes_tell_runs "clients.db" [before] present ascending storable clock⟩

end ServerRun

end LeaseRoster
