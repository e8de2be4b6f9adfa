import LeaseRoster.Proofs.ClientLinks

/-!
# Links with a fixed host

Where a template fixes its scheme and authority, so does every link from it.  What a link is
taken apart into is decided before the first slash behind the authority, so nothing behind
this slash counts: not an at sign, a colon, a bracket or another pair of slashes, whatever
name a client reports.
-/

namespace LeaseRoster

namespace Uri

section Stops

variable {test : Char → Bool} {stop : Char} (stops : test stop = false)
include stops

theorem takeWhile_append_stop (front rest : List Char) :
    (front ++ stop :: rest).takeWhile test = front.takeWhile test := by
  induction front with
  | nil => simp [stops]
  | cons first others ih => cases passed : test first <;> simp [passed, ih]

theorem dropWhile_append_stop (front rest : List Char) :
    (front ++ stop :: rest).dropWhile test = front.dropWhile test ++ stop :: rest := by
  induction front with
  | nil => simp [stops]
  | cons first others ih => cases passed : test first <;> simp [passed, ih]

end Stops

theorem readAuthority_slashless {first second : Char} (behind : List Char)
    (other : ¬(first = '/' ∧ second = '/')) : readAuthority (first :: second :: behind) = [] := by
  unfold readAuthority
  split
  next same =>
    rw [List.cons.injEq, List.cons.injEq] at same
    exact absurd ⟨same.1, same.2.1⟩ other
  next => rfl

/-- Behind a slash that may end the authority nothing counts for it. -/
theorem readAuthority_append_slash {front : List Char} (long : 2 ≤ front.length)
    (rest : List Char) :
    readAuthority (front ++ '/' :: rest) = readAuthority (front ++ ['/']) := by
  match front, long with
  | first :: second :: others, _ =>
    simp only [List.cons_append]
    by_cases slashes : first = '/' ∧ second = '/'
    · obtain ⟨rfl, rfl⟩ := slashes
      have ends : (!endsAuthority '/') = false := by decide
      rw [readAuthority, readAuthority, takeWhile_append_stop ends, takeWhile_append_stop ends]
    · rw [readAuthority_slashless _ slashes, readAuthority_slashless _ slashes]

/-- The scheme ends at a colon, and what follows is left to its end. -/
theorem exists_splitScheme (front : List Char) {body : List Char} (long : 2 ≤ body.length) :
    ∃ scheme behind, 2 ≤ behind.length ∧ ∀ rest,
      splitScheme (front ++ ':' :: (body ++ '/' :: rest)) = (scheme, behind ++ '/' :: rest) := by
  have stops : (':' != ':') = false := by decide
  -- An earlier colon, or no scheme in front of one, leaves more than the body; the slash ends
  -- what is left all the same.
  by_cases isScheme : isScheme (front.takeWhile (· != ':')) = true
  · cases colon : front.dropWhile (· != ':') with
    | nil =>
      refine ⟨(front.takeWhile (· != ':')).map Char.toLower, body, long, fun rest => ?_⟩
      simp [splitScheme, takeWhile_append_stop, dropWhile_append_stop, colon, isScheme]
    | cons first others =>
      refine ⟨(front.takeWhile (· != ':')).map Char.toLower, others ++ ':' :: body, ?_,
        fun rest => ?_⟩
      · simp
        omega
      · simp [splitScheme, takeWhile_append_stop, dropWhile_append_stop, colon, isScheme]
  · refine ⟨[], front ++ ':' :: body, ?_, fun rest => ?_⟩
    · simp
      omega
    · cases colon : front.dropWhile (· != ':') <;>
        simp [splitScheme, takeWhile_append_stop, dropWhile_append_stop, colon, isScheme]

/-- A link is taken apart before the slash behind its authority. -/
theorem split?_append_slash (front : List Char) {body : List Char} (long : 2 ≤ body.length)
    (rest : List Char) :
    split? (front ++ ':' :: (body ++ '/' :: rest)) = split? (front ++ ':' :: (body ++ ['/'])) := by
  have stops : isLeadingControl ':' = false := by decide
  obtain ⟨scheme, behind, several, parts⟩ :=
    exists_splitScheme (front.dropWhile isLeadingControl) long
  unfold split?
  rw [dropWhile_append_stop stops, dropWhile_append_stop stops, parts, parts]
  dsimp only
  rw [readAuthority_append_slash several]

end Uri

namespace Template

/-- Text without dollar signs stands in front of whatever the rest spells. -/
theorem Spells.exists_rest {parts : List Part} {opening rest : List Char}
    (plain : '$' ∉ opening) (spelled : Spells parts (opening ++ rest)) :
    ∃ others, parts = opening.map Part.literal ++ others := by
  induction opening generalizing parts with
  | nil => exact ⟨parts, rfl⟩
  | cons first opening ih =>
    rw [List.mem_cons, not_or] at plain
    cases spelled with
    | literal _ spelled =>
      obtain ⟨others, rfl⟩ := ih plain.2 spelled
      exact ⟨others, rfl⟩
    | sign => exact absurd rfl plain.1

theorem flatMap_filled_literals (values : List Char → Option (List Char))
    (opening : List Char) (others : List Part) :
    (opening.map Part.literal ++ others).flatMap (Part.filled values) =
      opening ++ others.flatMap (Part.filled values) := by
  induction opening with
  | nil => rfl
  | cons first opening ih => simp [Part.filled, ih]

end Template

namespace Link

/-- The link of a client whose template starts with a fixed scheme and authority is taken
apart as the fixed start is. -/
theorem IsLink.split?_eq {name : Option FriendlyName} {reservation : Option Reservation}
    {values : Values} {link : List Char} (isLink : IsLink name reservation values link)
    (filled : link ≠ []) {template : LinkTemplate} (chosen : Chooses name reservation template)
    {scheme authority rest : List Char}
    (source : template.source.toList = scheme ++ ':' :: ('/' :: '/' :: authority ++ '/' :: rest))
    (plain : '$' ∉ scheme ++ authority) :
    Uri.IsPage link ∧
      Uri.split? link = Uri.split? (scheme ++ ':' :: ('/' :: '/' :: authority ++ ['/'])) := by
  cases isLink with
  | absent => exact absurd rfl filled
  | unrendered => exact absurd rfl filled
  | refused => exact absurd rfl filled
  | @rendered other parts otherChosen spelled known page =>
    refine ⟨page, ?_⟩
    obtain rfl : other = template :=
      Option.some.inj (((template?_eq_some_iff _ _ _).mpr otherChosen).symm.trans
        ((template?_eq_some_iff _ _ _).mpr chosen))
    have opening : other.source.toList =
        (scheme ++ ':' :: ('/' :: '/' :: authority ++ ['/'])) ++ rest := by
      simp [source]
    rw [opening] at spelled
    obtain ⟨others, rfl⟩ := spelled.exists_rest (by simpa [not_or] using plain)
    rw [Template.flatMap_filled_literals]
    have same := Uri.split?_append_slash scheme
      (by simp : 2 ≤ ('/' :: '/' :: authority).length)
      (others.flatMap (Template.Part.filled values.get?))
    rw [← same]
    simp

end Link

namespace Reconciler

/-- No client can redirect a link whose host is fixed: where the template of two leases has a
scheme and an authority without placeholders, their links have the same scheme and the same
host, whatever the clients report and whatever else is configured. -/
theorem links_keep_fixed_host {one other : Reconciler} {lease twin : Lease}
    {template : LinkTemplate} {scheme authority rest : List Char}
    (source : template.source.toList = scheme ++ ':' :: ('/' :: '/' :: authority ++ '/' :: rest))
    (plain : '$' ∉ scheme ++ authority)
    (chosen : Link.Chooses (one.registry.nameFor (some lease.mac))
      (one.registry.forAddress (some lease.address)) template)
    (twinChosen : Link.Chooses (other.registry.nameFor (some twin.mac))
      (other.registry.forAddress (some twin.address)) template)
    (linked : (one.enrichLease lease).link ≠ "")
    (twinLinked : (other.enrichLease twin).link ≠ "") :
    ∃ uri twinUri,
      Uri.split? (one.enrichLease lease).link.toList = some uri ∧
      Uri.split? (other.enrichLease twin).link.toList = some twinUri ∧
      uri.scheme = twinUri.scheme ∧ uri.host = twinUri.host ∧
      uri.scheme ≠ [] ∧ uri.host ≠ [] := by
  have isLink := (Link.link_eq_iff (one.enrichLease lease).link).mp rfl
  have twinIsLink := (Link.link_eq_iff (other.enrichLease twin).link).mp rfl
  obtain ⟨⟨-, uri, apart, schemed, hosted⟩, same⟩ :=
    isLink.split?_eq (by simpa using linked) chosen source plain
  obtain ⟨-, twinSame⟩ := twinIsLink.split?_eq (by simpa using twinLinked) twinChosen source plain
  refine ⟨uri, uri, apart, ?_, rfl, rfl, schemed, hosted⟩
  rw [twinSame, ← same, apart]

/-- A name with marks of all kinds in it does not lead away from the host of the template. -/
theorem hostile_name_keeps_host :
    let mac : MacAddress := ⟨List.replicate 12 10, rfl⟩
    let template : LinkTemplate := ⟨"http://cam.lan/$hostname?at=$ip", by decide⟩
    let reconciler : Reconciler :=
      ⟨⟨[]⟩, Registry.build [] [⟨"cam", mac, some template⟩], 1, "lan", 1⟩
    let lease : Lease := ⟨mac, .v4 ⟨0xc0a80101, by decide⟩, "cam", none, none⟩
    let twin : Lease :=
      ⟨mac, .v6 ⟨1, by decide⟩ none, "@evil.lan:80//evil.lan/[$ip]#", none, none⟩
    (reconciler.enrichLease lease).link = "http://cam.lan/cam?at=192.168.1.1" ∧
    (reconciler.enrichLease twin).link =
      "http://cam.lan/@evil.lan:80//evil.lan/[$ip]#?at=::1" ∧
    ∃ uri twinUri,
      Uri.split? (reconciler.enrichLease lease).link.toList = some uri ∧
      Uri.split? (reconciler.enrichLease twin).link.toList = some twinUri ∧
      uri.scheme = twinUri.scheme ∧ uri.host = twinUri.host ∧
      uri.scheme ≠ [] ∧ uri.host ≠ [] := by
  intro mac template reconciler lease twin
  have link : (reconciler.enrichLease lease).link = "http://cam.lan/cam?at=192.168.1.1" := by
    decide +kernel
  have twinLink : (reconciler.enrichLease twin).link =
      "http://cam.lan/@evil.lan:80//evil.lan/[$ip]#?at=::1" := by
    decide +kernel
  have source : template.source.toList =
      "http".toList ++ ':' :: ('/' :: '/' :: "cam.lan".toList ++
        '/' :: "$hostname?at=$ip".toList) := by
    decide
  have chosen (address : IpAddress) : Link.Chooses (reconciler.registry.nameFor (some mac))
      (reconciler.registry.forAddress (some address)) template :=
    .named rfl rfl
  refine ⟨link, twinLink, links_keep_fixed_host source (by decide) (chosen _) (chosen _) ?_ ?_⟩
  · rw [link]
    decide
  · rw [twinLink]
    decide

end Reconciler

end LeaseRoster
