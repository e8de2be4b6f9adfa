import LeaseRoster.Proofs.RegistrySurvivors
import LeaseRoster.Proofs.TemplateTexts
import LeaseRoster.Reconciler

/-!
# Links of clients

The link of a client is the rendering of its template, or nothing.  The template of the
friendly name comes before that of the reservation, also where it gives no link.  As templates
are checked when they are read, only an unknown name keeps one from rendering, and what it
renders to is kept if it is the address of a page.
-/

namespace LeaseRoster

namespace Uri

/-- A text is the address of a page: there are no blanks in it, and it can be taken apart and
has a scheme and a host. -/
def IsPage (text : List Char) : Prop :=
  (∀ character ∈ text, Text.isBlank character = false) ∧
    ∃ uri, split? text = some uri ∧ uri.scheme ≠ [] ∧ uri.host ≠ []

theorem split?_nil : split? [] = some ⟨[], []⟩ := by decide

theorem isAbsolute_iff (text : List Char) : isAbsolute text = true ↔ IsPage text := by
  cases text with
  | nil => simp [isAbsolute, IsPage, split?_nil]
  | cons first rest =>
    unfold isAbsolute IsPage
    cases split? (first :: rest) <;> simp

end Uri

namespace Link

/-- The names of the values that templates fill in. -/
def placeholders : List String :=
  ["mac", "ip", "hostname", "friendly_name", "dns_domain", "fqdn"]

theorem Values.get?_eq_none_iff (values : Values) (name : List Char) :
    values.get? name = none ↔ String.ofList name ∉ placeholders := by
  unfold get? placeholders
  split <;> simp_all

/-- A template is that of a client: of its friendly name, or of its reservation if a friendly
name sets none. -/
inductive Chooses (name : Option FriendlyName) (reservation : Option Reservation)
    (template : LinkTemplate) : Prop
  | named {entry : FriendlyName} (known : name = some entry) (set : entry.link = some template)
  | reserved {entry : Reservation} (unset : ∀ named, name = some named → named.link = none)
      (known : reservation = some entry) (set : entry.link = some template)

theorem template?_eq_some_iff (name : Option FriendlyName) (reservation : Option Reservation)
    (template : LinkTemplate) :
    template? name reservation = some template ↔ Chooses name reservation template := by
  unfold template?
  constructor
  · intro found
    split at found
    next given set =>
      obtain ⟨entry, known, link⟩ := Option.bind_eq_some_iff.mp set
      cases found
      exact .named known link
    next unset =>
      obtain ⟨entry, known, link⟩ := Option.bind_eq_some_iff.mp found
      refine .reserved (fun named same => ?_) known link
      rw [same] at unset
      exact unset
  · intro chosen
    cases chosen with
    | named known set => simp [known, set]
    | reserved unset known set =>
      have none : name.bind FriendlyName.link = none := by
        cases name with
        | none => rfl
        | some named => exact unset named rfl
      simp [none, known, set]

/-- A text is the link of a client for which templates fill in some values. -/
inductive IsLink (name : Option FriendlyName) (reservation : Option Reservation)
    (values : Values) : List Char → Prop
  | absent (unset : ∀ template, ¬Chooses name reservation template) :
      IsLink name reservation values []
  | unrendered {template : LinkTemplate} {parts : List Template.Part} {placeholder : List Char}
      (chosen : Chooses name reservation template)
      (spelled : Template.Spells parts template.source.toList)
      (named : .placeholder placeholder ∈ parts)
      (unknown : String.ofList placeholder ∉ placeholders) :
      IsLink name reservation values []
  | refused {template : LinkTemplate} {parts : List Template.Part}
      (chosen : Chooses name reservation template)
      (spelled : Template.Spells parts template.source.toList)
      (known : ∀ placeholder, .placeholder placeholder ∈ parts →
        String.ofList placeholder ∈ placeholders)
      (noPage : ¬Uri.IsPage (parts.flatMap (Template.Part.filled values.get?))) :
      IsLink name reservation values []
  | rendered {template : LinkTemplate} {parts : List Template.Part}
      (chosen : Chooses name reservation template)
      (spelled : Template.Spells parts template.source.toList)
      (known : ∀ placeholder, .placeholder placeholder ∈ parts →
        String.ofList placeholder ∈ placeholders)
      (page : Uri.IsPage (parts.flatMap (Template.Part.filled values.get?))) :
      IsLink name reservation values (parts.flatMap (Template.Part.filled values.get?))

section Template

variable {template : LinkTemplate} {parts : List Template.Part} (values : Values)
  (spelled : Template.Spells parts template.source.toList)
include spelled

theorem render_of_known
    (known : ∀ placeholder, .placeholder placeholder ∈ parts →
      String.ofList placeholder ∈ placeholders) :
    template.render values.get? =
      .ok (parts.flatMap (Template.Part.filled values.get?)) := by
  refine LinkTemplate.render_of_known spelled fun placeholder named => ?_
  rw [Ne, Values.get?_eq_none_iff, not_not]
  exact known placeholder named

theorem render_of_unknown {placeholder : List Char}
    (named : .placeholder placeholder ∈ parts)
    (unknown : String.ofList placeholder ∉ placeholders) :
    template.render values.get? = .error .missingKey :=
  LinkTemplate.render_of_unknown spelled named ((values.get?_eq_none_iff _).mpr unknown)

end Template

section Client

variable (name : Option FriendlyName) (reservation : Option Reservation)
  (mac address hostname domain : List Char)

/-- The values that templates fill in for a client with a possible friendly name. -/
def valuesFor : Values where
  mac := mac
  address := address
  hostname := hostname
  friendlyName := ((name.map FriendlyName.name).getD "").toList
  domain := domain

variable {name reservation mac address hostname domain}

theorem link_of_isLink {text : List Char}
    (isLink : IsLink name reservation (valuesFor name mac address hostname domain) text) :
    (evaluate name reservation mac address hostname domain).link = String.ofList text := by
  generalize same : valuesFor name mac address hostname domain = values at isLink
  have chosenRead {template : LinkTemplate} (chosen : Chooses name reservation template) :
      evaluate name reservation mac address hostname domain = ofTemplate values template := by
    rw [evaluate, (template?_eq_some_iff _ _ _).mpr chosen, ← same]
    rfl
  cases isLink with
  | absent unset =>
    have none : template? name reservation = none := by
      rw [Option.eq_none_iff_forall_ne_some]
      exact fun template found => unset template ((template?_eq_some_iff _ _ _).mp found)
    rw [evaluate, none]
    rfl
  | unrendered chosen spelled named unknown =>
    rw [chosenRead chosen, ofTemplate, render_of_unknown values spelled named unknown]
    rfl
  | refused chosen spelled known noPage =>
    rw [chosenRead chosen, ofTemplate, render_of_known values spelled known]
    simp only [if_neg (mt (Uri.isAbsolute_iff _).mp noPage)]
    rfl
  | rendered chosen spelled known page =>
    rw [chosenRead chosen, ofTemplate, render_of_known values spelled known]
    simp only [if_pos ((Uri.isAbsolute_iff _).mpr page)]
    rfl

theorem exists_isLink (name : Option FriendlyName) (reservation : Option Reservation)
    (values : Values) : ∃ text, IsLink name reservation values text := by
  by_cases chosen : ∃ template, Chooses name reservation template
  case neg => exact ⟨[], .absent (not_exists.mp chosen)⟩
  obtain ⟨template, chosen⟩ := chosen
  obtain ⟨parts, spelled⟩ := template.exists_spelled
  by_cases known : ∀ placeholder, .placeholder placeholder ∈ parts →
      String.ofList placeholder ∈ placeholders
  case neg =>
    push Not at known
    obtain ⟨placeholder, named, unknown⟩ := known
    exact ⟨[], .unrendered chosen spelled named unknown⟩
  by_cases page : Uri.IsPage (parts.flatMap (Template.Part.filled values.get?))
  · exact ⟨_, .rendered chosen spelled known page⟩
  · exact ⟨[], .refused chosen spelled known page⟩

/-- What is evaluated is the only link of a client. -/
theorem link_eq_iff (link : String) :
    (evaluate name reservation mac address hostname domain).link = link ↔
      IsLink name reservation (valuesFor name mac address hostname domain) link.toList := by
  constructor
  · rintro rfl
    obtain ⟨text, isLink⟩ := exists_isLink name reservation
      (valuesFor name mac address hostname domain)
    rw [link_of_isLink isLink, String.toList_ofList]
    exact isLink
  · intro isLink
    rw [link_of_isLink isLink, String.ofList_toList]

end Client

end Link

namespace Reconciler

/-- A text is accepted as a template exactly if its dollar signs have a meaning.  The link of
a lease is then the one text that is its link: nothing without a template, with an unknown
name in it, or if the rendering is no address of a page, and otherwise the rendering itself.
The same holds of a client that is given by texts, and nothing fails. -/
theorem link_is_rendering_or_empty (reconciler : Reconciler) :
    (∀ source,
      (∃ template, LinkTemplate.ofText source = .accepted template ∧
        (template.map LinkTemplate.source).getD "" = source) ↔
      ∃ parts, Template.Spells parts source.toList) ∧
    (∀ (lease : Lease) (link : String),
      let name := reconciler.registry.nameFor (some lease.mac)
      (reconciler.enrichLease lease).link = link ↔
        Link.IsLink name (reconciler.registry.forAddress (some lease.address))
          (Link.valuesFor name lease.mac.text lease.address.text lease.hostname.toList
            reconciler.domain.toList) link.toList) ∧
    (∀ hostname address mac : String,
      let name := reconciler.registry.nameFor (MacAddress.read? mac.toList)
      let reservation :=
        reconciler.registry.forAddress (IpAddress.readStripped? address.toList)
      ∃ found, reconciler.rawLink (.text hostname) (.text address) (.text mac) = .ok found ∧
        Link.IsLink name reservation
          (Link.valuesFor name mac.toList address.toList hostname.toList
            reconciler.domain.toList) found.value.toList) := by
  refine ⟨LinkTemplate.ofText_accepts_iff, fun lease link => ?_, fun hostname address mac => ?_⟩
  · exact Link.link_eq_iff link
  · refine ⟨_, by simp only [rawLink, Registry.macKey_text]; rfl, ?_⟩
    exact (Link.link_eq_iff _).mp rfl

/-- Every placeholder is filled in with the value of its own. -/
example :
    let mac : MacAddress := ⟨[0, 0, 1, 1, 2, 2, 3, 3, 4, 4, 10, 11], rfl⟩
    let source := "http://$fqdn/$mac/$ip?host=$hostname&name=$friendly_name&domain=$dns_domain"
    let registry := Registry.build [] [⟨"Printer", mac, LinkTemplate.ofSource? source⟩]
    let reconciler : Reconciler := ⟨⟨[]⟩, registry, 1, "lan", 1⟩
    (reconciler.enrichLease ⟨mac, .v4 0xc0a80002, "laser", none, none⟩).link =
      "http://laser.lan/00:11:22:33:44:ab/192.168.0.2?host=laser&name=Printer&domain=lan" := by
  decide +kernel

end Reconciler

end LeaseRoster
