import LeaseRoster.Proofs.PublishedOrder
import LeaseRoster.Proofs.RegistrySurvivors
import LeaseRoster.Proofs.TableRows

/-!
# Past clients of any table

The list of past clients is derived in three passes: the addresses that count as alive are
brought into one spelling, rows that cannot be read are passed over, and of several rows of
a client the latest is kept.  Read from the result, whatever a table holds that can be
scanned: a past client is an address that some row can be read with and that is not alive, and it
stands there with the row of its own that no row below outdoes and that no row above equals.
-/

namespace LeaseRoster

namespace Sighting

/-! ## The latest row of a client -/

theorem foldl_laterOf_of_le {sightings : List Sighting} {known : Sighting}
    (others : ∀ other ∈ sightings, other.lastSeen.instant ≤ known.lastSeen.instant) :
    sightings.foldl laterOf (some known) = some known := by
  induction sightings with
  | nil => rfl
  | cons sighting rest ih =>
    have kept : laterOf (some known) sighting = some known :=
      if_neg (not_lt.mpr (others sighting List.mem_cons_self))
    rw [List.foldl_cons, kept]
    exact ih fun other member => others other (List.mem_cons_of_mem _ member)

theorem mac_of_latestOf {mac : MacAddress} {sightings : List Sighting} {found : Sighting}
    (latest : latestOf mac sightings = some found) : found.mac = mac := by
  rcases mem_of_foldl_laterOf latest with none | member
  · cases none
  · exact of_decide_eq_true (List.mem_filter.mp member).2

theorem latestOf_append (mac : MacAddress) (sightings : List Sighting) (last : Sighting) :
    latestOf mac (sightings ++ [last]) =
      if last.mac = mac then laterOf (latestOf mac sightings) last
      else latestOf mac sightings := by
  unfold latestOf
  by_cases own : last.mac = mac <;> simp [List.filter_append, own]

theorem latestOf_eq_none_iff (mac : MacAddress) (sightings : List Sighting) :
    latestOf mac sightings = none ↔ ∀ other ∈ sightings, other.mac ≠ mac := by
  induction sightings using List.reverseRecOn with
  | nil => simp [latestOf]
  | append_singleton earlier last ih =>
    rw [latestOf_append]
    by_cases own : last.mac = mac
    · have present : ∃ found, laterOf (latestOf mac earlier) last = some found := by
        rcases laterOf_eq_or (latestOf mac earlier) last with same | taken
        · cases known : latestOf mac earlier with
          | none => exact ⟨last, rfl⟩
          | some found => exact ⟨found, by rw [← known, same]⟩
        · exact ⟨last, taken⟩
      obtain ⟨found, taken⟩ := present
      simp [own, taken]
    · simp [own, ih, or_imp, forall_and]

/-- The latest sighting of a client is the one that those above it are earlier than and those
below it not later. -/
theorem latestOf_eq_some_iff (mac : MacAddress) (sightings : List Sighting)
    (sighting : Sighting) :
    latestOf mac sightings = some sighting ↔
      ∃ above below, sightings = above ++ sighting :: below ∧ sighting.mac = mac ∧
        (∀ other ∈ above, other.mac = mac →
          other.lastSeen.instant < sighting.lastSeen.instant) ∧
        ∀ other ∈ below, other.mac = mac →
          other.lastSeen.instant ≤ sighting.lastSeen.instant := by
  constructor
  · intro latest
    induction sightings using List.reverseRecOn generalizing sighting with
    | nil => cases latest
    | append_singleton earlier last ih =>
      rw [latestOf_append] at latest
      by_cases own : last.mac = mac
      · rw [if_pos own] at latest
        cases known : latestOf mac earlier with
        | none =>
          have first := (latestOf_eq_none_iff mac earlier).mp known
          rw [known] at latest
          obtain rfl : last = sighting := Option.some.inj latest
          exact ⟨earlier, [], rfl, own, fun other member alike => absurd alike (first other member),
            by simp⟩
        | some held =>
          obtain ⟨above, below, rfl, same, before, behind⟩ := ih held known
          rw [known] at latest
          -- A tie is not later, so that the row above stays.
          by_cases later : held.lastSeen.instant < last.lastSeen.instant
          · rw [laterOf, if_pos later] at latest
            obtain rfl : last = sighting := Option.some.inj latest
            refine ⟨above ++ held :: below, [], rfl, own, fun other member alike => ?_, by simp⟩
            rcases List.mem_append.mp member with early | late
            · exact (before other early alike).trans later
            · rcases List.mem_cons.mp late with rfl | lower
              · exact later
              · exact (behind other lower alike).trans_lt later
          · rw [laterOf, if_neg later] at latest
            obtain rfl : held = sighting := Option.some.inj latest
            refine ⟨above, below ++ [last], by simp, same, before, fun other member alike => ?_⟩
            rcases List.mem_append.mp member with lower | final
            · exact behind other lower alike
            · rw [List.mem_singleton.mp final]
              exact not_lt.mp later
      · rw [if_neg own] at latest
        obtain ⟨above, below, rfl, same, before, behind⟩ := ih sighting latest
        refine ⟨above, below ++ [last], by simp, same, before, fun other member alike => ?_⟩
        rcases List.mem_append.mp member with lower | final
        · exact behind other lower alike
        · rw [List.mem_singleton.mp final] at alike
          exact absurd alike own
  · rintro ⟨above, below, rfl, own, before, behind⟩
    have taken : laterOf (latestOf mac above) sighting = some sighting := by
      cases known : latestOf mac above with
      | none => rfl
      | some earlier =>
        have mine := mac_of_latestOf known
        exact if_pos (before earlier (mem_of_latestOf known) mine)
    have reached : latestOf mac (above ++ sighting :: below) =
        (below.filter fun other => other.mac = mac).foldl laterOf
          (laterOf (latestOf mac above) sighting) := by
      simp [latestOf, List.filter_append, own]
    rw [reached, taken]
    apply foldl_laterOf_of_le
    intro other member
    obtain ⟨lower, mine⟩ := List.mem_filter.mp member
    exact behind other lower (of_decide_eq_true mine)

/-- A sighting is made by a row of a table, the rows above it about the same client were seen
earlier, and those below it not later. -/
def IsLatestIn (sighting : Sighting) (rows : List Row) : Prop :=
  ∃ above row below, rows = above ++ row :: below ∧ row.Tells sighting ∧
    (∀ other ∈ above.filterMap Row.sighting?, other.mac = sighting.mac →
      other.lastSeen.instant < sighting.lastSeen.instant) ∧
    ∀ other ∈ below.filterMap Row.sighting?, other.mac = sighting.mac →
      other.lastSeen.instant ≤ sighting.lastSeen.instant

theorem isLatestIn_iff (sighting : Sighting) (rows : List Row) :
    sighting.IsLatestIn rows ↔
      latestOf sighting.mac (rows.filterMap Row.sighting?) = some sighting := by
  rw [latestOf_eq_some_iff]
  constructor
  · rintro ⟨above, row, below, rfl, tells, before, behind⟩
    have made := (row.sighting?_eq_some_iff sighting).mpr tells
    exact ⟨_, _, by simp [made], rfl, before, behind⟩
  · rintro ⟨above, below, split, -, before, behind⟩
    -- Rows that cannot be read may stand between the rows above and the one of the sighting.
    obtain ⟨upper, lower, rfl, rfl, rest⟩ := List.filterMap_eq_append_iff.mp split
    obtain ⟨unread, row, last, rfl, unreadable, made, rfl⟩ := List.filterMap_eq_cons_iff.mp rest
    refine ⟨upper ++ unread, row, last, by simp, (row.sighting?_eq_some_iff sighting).mp made,
      fun other member => ?_, behind⟩
    have nothing : unread.filterMap Row.sighting? = [] :=
      List.filterMap_eq_nil_iff.mpr unreadable
    rw [List.filterMap_append, nothing, List.append_nil] at member
    exact before other member

end Sighting

namespace Row

theorem mem_macs_iff (rows : List Row) (mac : MacAddress) :
    mac ∈ (rows.filterMap sighting?).map Sighting.mac ↔
      ∃ row ∈ rows, row.address? = some mac ∧ ∃ sighting, row.Tells sighting := by
  simp only [List.mem_map, List.mem_filterMap]
  constructor
  · rintro ⟨sighting, ⟨row, member, made⟩, rfl⟩
    have tells := (row.sighting?_eq_some_iff sighting).mp made
    exact ⟨row, member, tells.address, sighting, tells⟩
  · rintro ⟨row, member, spelled, sighting, tells⟩
    refine ⟨sighting, ⟨row, member, (row.sighting?_eq_some_iff sighting).mpr tells⟩, ?_⟩
    exact Option.some.inj (tells.address.symm.trans spelled)

/-- Rows that are passed over are reported as such and not as clients of a later run. -/
theorem not_mem_notices (rows : List Row) (mac : MacAddress) (epoch current : Int) :
    Notice.epochAhead mac epoch current ∉ rows.flatMap notices := by
  rw [List.mem_flatMap]
  rintro ⟨row, -, noted⟩
  unfold notices at noted
  split at noted
  · cases noted
  · cases List.mem_singleton.mp noted

end Row

namespace PastClient

/-- Whether a client comes before another one: it was seen earlier, or at the same time and its
hardware address is the smaller text. -/
def Precedes (left right : PastClient) : Prop :=
  left.sighting.lastSeen.instant < right.sighting.lastSeen.instant ∨
    left.sighting.lastSeen.instant = right.sighting.lastSeen.instant ∧
      left.sighting.mac.toString < right.sighting.mac.toString

theorem precedes_of_le {left right : PastClient} (before : left.le right = true)
    (different : left.sighting.mac ≠ right.sighting.mac) : left.Precedes right := by
  have numbers : left.sighting.mac.value ≠ right.sighting.mac.value := by
    intro same
    exact different (MacAddress.value_injective same)
  rw [le_iff] at before
  rw [Precedes, MacAddress.toString_lt_iff]
  omega

end PastClient

namespace Reconciler

/-! ## Whole tables -/

theorem aliveOf_texts (spelled : List String) :
    aliveOf (spelled.map .text) =
      .ok (spelled.filterMap fun text => MacAddress.read? text.toList) := by
  induction spelled with
  | nil => rfl
  | cons text rest ih =>
    rw [List.map_cons, aliveOf, ih, Registry.macKey_text]
    cases read : MacAddress.read? text.toList <;> simp [read, bind, Except.bind, pure, Except.pure]

section Among

variable (reconciler : Reconciler) (alive : List MacAddress) (sightings : List Sighting)

theorem pastAmong_perm :
    (reconciler.pastAmong alive sightings).Perm
      ((latestSightings alive sightings).map reconciler.describePast) :=
  List.mergeSort_perm _ _

theorem macs_pastAmong :
    ((reconciler.pastAmong alive sightings).map fun client => client.sighting.mac).Nodup ∧
      ∀ mac, mac ∈ (reconciler.pastAmong alive sightings).map (fun client => client.sighting.mac) ↔
        mac ∈ sightings.map Sighting.mac ∧ mac ∉ alive := by
  have macs := (reconciler.pastAmong_perm alive sightings).map fun client => client.sighting.mac
  rw [macs_map_describePast] at macs
  obtain ⟨distinct, members⟩ := macs_latestSightings alive sightings
  exact ⟨macs.nodup_iff.mpr distinct, fun mac => macs.mem_iff.trans (members mac)⟩

theorem mem_pastAmong_iff (client : PastClient) :
    client ∈ reconciler.pastAmong alive sightings ↔
      client.sighting ∈ latestSightings alive sightings ∧
        client = reconciler.describePast client.sighting := by
  rw [(reconciler.pastAmong_perm alive sightings).mem_iff, List.mem_map]
  constructor
  · rintro ⟨sighting, latest, rfl⟩
    exact ⟨latest, rfl⟩
  · rintro ⟨latest, described⟩
    exact ⟨client.sighting, latest, described.symm⟩

/-- Past clients stand in a strict order, since no two of them have one address. -/
theorem pairwise_pastAmong :
    (reconciler.pastAmong alive sightings).Pairwise PastClient.Precedes := by
  have sorted := PastClient.pairwise_mergeSort_le
    ((latestSightings alive sightings).map reconciler.describePast)
  have different := List.pairwise_map.mp (reconciler.macs_pastAmong alive sightings).1
  apply (sorted.and different).imp
  rintro left right ⟨before, apart⟩
  exact PastClient.precedes_of_le before apart

theorem mem_pastNotices_iff (mac : MacAddress) (epoch : Int) :
    Notice.epochAhead mac epoch reconciler.epoch ∈
        (latestSightings alive sightings).flatMap reconciler.pastNotices ↔
      ∃ client ∈ reconciler.pastAmong alive sightings, client.sighting.mac = mac ∧
        client.sighting.epoch = epoch ∧ reconciler.epoch < epoch := by
  rw [List.mem_flatMap]
  constructor
  · rintro ⟨sighting, latest, noted⟩
    unfold pastNotices at noted
    split at noted
    · rename_i ahead
      obtain ⟨rfl, rfl⟩ : mac = sighting.mac ∧ epoch = sighting.epoch := by simpa using noted
      refine ⟨reconciler.describePast sighting, ?_, rfl, rfl, ahead⟩
      exact (reconciler.mem_pastAmong_iff alive sightings _).mpr ⟨latest, rfl⟩
    · cases noted
  · rintro ⟨client, member, rfl, rfl, ahead⟩
    obtain ⟨latest, -⟩ := (reconciler.mem_pastAmong_iff alive sightings client).mp member
    exact ⟨client.sighting, latest, by simp [pastNotices, ahead]⟩

end Among

end Reconciler

namespace Schedule.Session

theorem listPast_texts (session : Session) (sound : session.roster.history.scanCause? = none)
    (spelled : List String) :
    let sightings := session.roster.history.rows.filterMap Row.sighting?
    let alive := spelled.filterMap fun text => MacAddress.read? text.toList
    session.listPast (spelled.map .text) =
      (session.note (session.roster.history.rows.flatMap Row.notices ++
        (Reconciler.latestSightings alive sightings).flatMap session.reconciler.pastNotices),
      .ok (.past (session.reconciler.pastAmong alive sightings))) := by
  intro sightings alive
  have fetched := session.roster.history.fetchAll_eq
  rw [sound] at fetched
  rw [listPast, Reconciler.aliveOf_texts]
  simp only [answerFound, Reconciler.pastClients, fetched]
  rfl

theorem listPast_texts_of_fails (session : Session) {cause : HistoryCause}
    (fails : session.roster.history.scanCause? = some cause) (spelled : List String) :
    session.listPast (spelled.map .text) =
      (session.note [.historyNotRead (.history .scanning cause)], .ok (.past [])) := by
  have fetched := session.roster.history.fetchAll_eq
  rw [fails] at fetched
  rw [listPast, Reconciler.aliveOf_texts]
  simp only [answerFound, Reconciler.pastClients, fetched]

/-- What the past clients of a table are and the notices with them, for the addresses that count
as alive.  The addresses are those that a readable row spells and that are not alive, one of each;
each of them stands there with the latest of its rows, in the order of last sightings and then of
addresses; its note says how the server run of that row relates to the present one; and exactly
those of later server runs are reported. -/
structure ListsExactly (reconciler : Reconciler) (rows : List Row) (alive : List MacAddress)
    (past : List PastClient) (notices : List Notice) : Prop where
  distinct : (past.map fun client => client.sighting.mac).Nodup
  members : ∀ mac, mac ∈ past.map (fun client => client.sighting.mac) ↔
    mac ∉ alive ∧ ∃ row ∈ rows, row.address? = some mac ∧ ∃ sighting, row.Tells sighting
  described : ∀ client ∈ past, client = reconciler.describePast client.sighting
  latest : ∀ client ∈ past, client.sighting.IsLatestIn rows
  sorted : past.Pairwise PastClient.Precedes
  noted : ∀ client ∈ past,
    (client.sighting.epoch < reconciler.epoch →
      client.note = "Last seen in a previous run of the DHCP server") ∧
    (client.sighting.epoch = reconciler.epoch →
      client.note = "Seen after last DHCP server restart but it missed DHCP renewal or " ++
        "it cannot reach the network anymore") ∧
    (reconciler.epoch < client.sighting.epoch →
      client.note = "Tagged with an inconsistent DHCP server start epoch")
  reported : ∀ mac epoch, .epochAhead mac epoch reconciler.epoch ∈ notices ↔
    ∃ client ∈ past, client.sighting.mac = mac ∧ client.sighting.epoch = epoch ∧
      reconciler.epoch < epoch

theorem listsExactly_pastAmong (reconciler : Reconciler) (rows : List Row)
    (alive : List MacAddress) :
    let sightings := rows.filterMap Row.sighting?
    ListsExactly reconciler rows alive (reconciler.pastAmong alive sightings)
      (rows.flatMap Row.notices ++
        (Reconciler.latestSightings alive sightings).flatMap reconciler.pastNotices) := by
  intro sightings
  obtain ⟨distinct, members⟩ := reconciler.macs_pastAmong alive sightings
  have described (client : PastClient) (member : client ∈ reconciler.pastAmong alive sightings) :
      client = reconciler.describePast client.sighting :=
    ((reconciler.mem_pastAmong_iff alive sightings client).mp member).2
  refine
    { distinct
      members := fun mac => ?_
      described
      latest := fun client member => ?_
      sorted := reconciler.pairwise_pastAmong alive sightings
      noted := fun client member => ?_
      reported := fun mac epoch => ?_ }
  · rw [members, and_comm, Row.mem_macs_iff]
  · have kept := ((reconciler.mem_pastAmong_iff alive sightings client).mp member).1
    rw [Reconciler.mem_latestSightings_iff] at kept
    exact (Sighting.isLatestIn_iff client.sighting rows).mpr kept.2
  · have note : client.note = Reconciler.epochNote client.sighting.epoch reconciler.epoch :=
      congrArg PastClient.note (described client member)
    rw [note, Reconciler.epochNote]
    refine ⟨fun earlier => ?_, fun same => ?_, fun later => ?_⟩
    · rw [compare_lt_iff_lt.mpr earlier]
      rfl
    · rw [compare_eq_iff_eq.mpr same]
      rfl
    · rw [compare_gt_iff_gt.mpr later]
      rfl
  · rw [List.mem_append]
    constructor
    · rintro (skipped | ahead)
      · exact absurd skipped (Row.not_mem_notices rows mac epoch reconciler.epoch)
      · exact (reconciler.mem_pastNotices_iff alive sightings mac epoch).mp ahead
    · intro listed
      exact Or.inr ((reconciler.mem_pastNotices_iff alive sightings mac epoch).mpr listed)

/-- The past clients of a table are exact whenever it is open and its texts are all UTF-8, whatever
rows other programs left in it and however the addresses are spelled that count as alive.  No row
stops the list, since one that makes no sighting is malformed.  A table that is closed or holds a
garbled text cannot be scanned; the list is empty then, and the failure is reported. -/
theorem listPast_exact (session : Session)
    (columns : ∀ row ∈ session.roster.history.rows, row.mac.inTextColumn = row.mac)
    (spelled : List String) :
    let rows := session.roster.history.rows
    let alive := spelled.filterMap fun text => MacAddress.read? text.toList
    (∀ row ∈ rows, ∀ fault, row.sighting = .error fault → Row.Malformed fault) ∧
    ∃ past notices,
      session.listPast (spelled.map .text) = (session.note notices, .ok (.past past)) ∧
      (session.roster.history.isOpen = true → (∀ row ∈ rows, row.garbled? = none) →
        ListsExactly session.reconciler rows alive past notices) ∧
      ∀ cause, session.roster.history.scanCause? = some cause →
        past = [] ∧ notices = [.historyNotRead (.history .scanning cause)] := by
  intro rows alive
  refine ⟨fun row member fault => Row.malformed_of_sighting (columns row member), ?_⟩
  have usable := session.roster.history.scanCause?_eq_none_iff
  cases scanned : session.roster.history.scanCause? with
  | some cause =>
    rw [scanned] at usable
    refine ⟨_, _, session.listPast_texts_of_fails scanned spelled, ?_, fun found same => ?_⟩
    · intro isOpen texts
      cases usable.mpr ⟨isOpen, texts⟩
    · obtain rfl : cause = found := Option.some.inj same
      exact ⟨rfl, rfl⟩
  | none =>
    exact ⟨_, _, session.listPast_texts scanned spelled,
      fun _ _ => listsExactly_pastAmong session.reconciler rows alive, nofun⟩

/-- One client has two rows in two spellings, of one instant in two time zones, and counts with
the first of them; one is of a later server run and stays; one is alive in a third spelling;
four rows cannot be read. -/
theorem two_past_clients_of_dirty_table :
    let rows : List Row :=
      [⟨.text "AA-BB-CC-DD-EE-FF", .text "first", .text "2024-03-01T00:00:00", .integer 1⟩,
       ⟨.text "aabb.ccdd.eeff", .null, .text "2024-03-01T02:00:00+02:00", .integer 2⟩,
       ⟨.null, .text "nobody", .text "2024-01-01T00:00:00", .integer 1⟩,
       ⟨.bytes (.blob [0xaa]), .text "raw", .text "2024-01-01T00:00:00", .integer 1⟩,
       ⟨.text "aa:bb:cc:dd:ee:00", .null, .text "soon", .integer 1⟩,
       ⟨.text "aa:bb:cc:dd:ee:01", .null, .text "2024-01-01T00:00:00", .text "many"⟩,
       ⟨.text "aa:bb:cc:dd:ee:02", .text "ahead", .text "2024-01-01T00:00:00", .integer 9⟩,
       ⟨.text "aa:bb:cc:dd:ee:03", .text "alive", .text "2024-01-01T00:00:00", .integer 2⟩]
    let session : Session :=
      ⟨⟨0, some 0, by decide⟩, ⟨⟨[]⟩, Registry.empty, 2, "lan", 1⟩,
        Roster.initial ⟨"clients.db", rows, true⟩, Index.empty, false, [], []⟩
    let spelled : List String := ["AABBCCDDEE03", "AA-BB-CC-DD-EE-03", "nobody"]
    (∀ row ∈ session.roster.history.rows, row.mac.inTextColumn = row.mac) ∧
      session.roster.history.isOpen = true ∧
      (∀ row ∈ session.roster.history.rows, row.garbled? = none) ∧
      ∃ past notices,
        session.listPast (spelled.map .text) = (session.note notices, .ok (.past past)) ∧
        (past.map fun client => client.sighting.hostname).Perm ["first", "ahead"] ∧
        past.Pairwise PastClient.Precedes ∧
        ∀ client ∈ past, client.sighting.IsLatestIn rows := by
  intro rows session spelled
  have columns : ∀ row ∈ session.roster.history.rows, row.mac.inTextColumn = row.mac := by
    decide +kernel
  have texts : ∀ row ∈ session.roster.history.rows, row.garbled? = none := by decide +kernel
  obtain ⟨-, past, notices, answered, listed, -⟩ := listPast_exact session columns spelled
  have exact := listed rfl texts
  refine ⟨columns, rfl, texts, past, notices, answered, ?_, exact.sorted, exact.latest⟩
  let sightings := rows.filterMap Row.sighting?
  let alive := spelled.filterMap fun text => MacAddress.read? text.toList
  have hostnames : ((Reconciler.latestSightings alive sightings).map
      session.reconciler.describePast).map (fun client => client.sighting.hostname) =
        ["first", "ahead"] := by
    decide +kernel
  have sound : session.roster.history.scanCause? = none :=
    session.roster.history.scanCause?_eq_none_iff.mpr ⟨rfl, texts⟩
  obtain ⟨-, same⟩ := Prod.mk.inj (answered.symm.trans (session.listPast_texts sound spelled))
  cases same
  rw [← hostnames]
  exact (session.reconciler.pastAmong_perm alive sightings).map _

/-- A client that is not alive has a readable row.  It is not among the past clients if a name in
another row is garbled, and neither if the table is closed. -/
theorem readable_row_is_missed :
    let readable : Row :=
      ⟨.text "aa:bb:cc:dd:ee:02", .text "phone", .text "2024-01-01T00:00:00", .integer 2⟩
    let garbled : Row :=
      ⟨.text "aa:bb:cc:dd:ee:03", .bytes (.garbled [0xff] (by decide)),
        .text "2024-01-01T00:00:00", .integer 2⟩
    let session (history : History) : Session :=
      ⟨⟨0, some 0, by decide⟩, ⟨⟨[]⟩, Registry.empty, 2, "lan", 1⟩, Roster.initial history,
        Index.empty, false, [], []⟩
    let beside := session ⟨"clients.db", [readable, garbled], true⟩
    let closed := session ⟨"clients.db", [readable], false⟩
    (∃ sighting, readable.Tells sighting) ∧
      (∃ notices, beside.listPast [] = (beside.note notices, .ok (.past []))) ∧
      ∃ notices, closed.listPast [] = (closed.note notices, .ok (.past [])) := by
  intro readable garbled session beside closed
  have unscanned : beside.roster.history.scanCause? = some (.garbledText "hostname" [0xff]) := by
    decide +kernel
  have unusable : closed.roster.history.scanCause? = some .closed := rfl
  refine ⟨?_, ⟨_, beside.listPast_texts_of_fails unscanned []⟩,
    ⟨_, closed.listPast_texts_of_fails unusable []⟩⟩
  have made : readable.sighting?.isSome = true := by decide +kernel
  obtain ⟨sighting, told⟩ := Option.isSome_iff_exists.mp made
  exact ⟨sighting, (readable.sighting?_eq_some_iff sighting).mp told⟩

end Schedule.Session

end LeaseRoster
