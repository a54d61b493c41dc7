import Triage.Proofs.Calendar.Written
import Triage.Proofs.Snapshot.Field

namespace Triage

open Json

namespace Json

theorem toDate?_write (d : Date) : toDate? (text d.write) = some d := d.readLoose?_write

theorem toTimestamp?_write (t : Timestamp) : toTimestamp? (text t.write) = some t := t.read?_write

end Json

namespace Issue

def fields (issue : Issue) : List Field := [
  .required "id" (· = .natural issue.id.toNat),
  .required "title" (· = text issue.title),
  .defaulted "body" issue.body [] (· = text issue.body),
  .required "author" (· = text issue.author),
  .defaulted "assignee" issue.assignee none (· = ofOption text issue.assignee),
  .defaulted "labels" issue.labels [] (· = .array (issue.labels.map text)),
  .defaulted "milestone" issue.milestone none (· = ofOption (fun id => .natural id.toNat) issue.milestone),
  .defaulted "is_open" issue.isOpen true (· = .bool issue.isOpen),
  .defaulted "is_pull_request" issue.isPullRequest false (· = .bool issue.isPullRequest),
  .defaulted "is_merged" issue.isMerged false (· = .bool issue.isMerged),
  .required "created_at" (· = text issue.createdAt.write),
  .required "updated_at" (· = text issue.updatedAt.write),
  .defaulted "comment_count" issue.commentCount 0 (· = .natural issue.commentCount.toNat)]

theorem ofJson?_of_shows {issue : Issue} {document : Json} (h : document.Shows issue.fields) :
    ofJson? document = some issue := by
  obtain ⟨entries, rfl, hshown⟩ := h
  have hadmits := hshown.admits_lookup
  simp only [fields, List.forall_mem_cons, Field.name_required, Field.name_defaulted] at hadmits
  obtain ⟨hid, htitle, hbody, hauthor, hassignee, hlabels, hmilestone, hopen, hpull, hmerged, hcreated, hupdated,
    hcomments, -⟩ := hadmits
  have hid := required_of_admits hid (forall_eq.2 (toUInt64?_natural issue.id))
  have htitle := required_of_admits htitle (forall_eq.2 (toText?_text issue.title))
  have hbody := orDefault_of_admits hbody (forall_eq.2 (toText?_text issue.body))
  have hauthor := required_of_admits hauthor (forall_eq.2 (toText?_text issue.author))
  have hassignee := orDefault_of_admits hassignee
    (forall_eq.2 (nullable_ofOption toText?_text text_ne_null issue.assignee))
  have hlabels := orDefault_of_admits hlabels (forall_eq.2 (toList?_map toText?_text issue.labels))
  have hmilestone := orDefault_of_admits hmilestone
    (forall_eq.2 (nullable_ofOption toUInt64?_natural natural_ne_null issue.milestone))
  have hopen := orDefault_of_admits hopen (forall_eq.2 (toBool?_bool issue.isOpen))
  have hpull := orDefault_of_admits hpull (forall_eq.2 (toBool?_bool issue.isPullRequest))
  have hmerged := orDefault_of_admits hmerged (forall_eq.2 (toBool?_bool issue.isMerged))
  have hcreated := required_of_admits hcreated (forall_eq.2 (toTimestamp?_write issue.createdAt))
  have hupdated := required_of_admits hupdated (forall_eq.2 (toTimestamp?_write issue.updatedAt))
  have hcomments := orDefault_of_admits hcomments (forall_eq.2 (toUInt32?_natural issue.commentCount))
  rw [ofJson?, record?_of_distinct fieldNames hshown.distinct]
  show (required toUInt64? _).bind _ = _
  rw [hid, htitle, hbody, hauthor, hassignee, hlabels, hmilestone, hopen, hpull, hmerged, hcreated, hupdated, hcomments]
  rfl

def requiredNames : List String := ["id", "title", "author", "created_at", "updated_at"]

theorem mem_keys_of_ofJson? (entries : List (String × Json)) (issue : Issue)
    (h : ofJson? (Json.fields entries) = some issue) : ∀ name ∈ requiredNames, name ∈ entries.map Prod.fst := by
  obtain ⟨values, hvalues, h⟩ := Option.bind_eq_some_iff.1 h
  have hfields := forall₂_of_record? hvalues
  split at h
  · simp only [fieldNames, List.forall₂_cons] at hfields
    obtain ⟨hid, htitle, -, hauthor, -, -, -, -, -, -, hcreated, hupdated, -⟩ := hfields
    obtain ⟨_, hid', h⟩ := Option.bind_eq_some_iff.1 h
    obtain ⟨_, htitle', h⟩ := Option.bind_eq_some_iff.1 h
    obtain ⟨_, -, h⟩ := Option.bind_eq_some_iff.1 h
    obtain ⟨_, hauthor', h⟩ := Option.bind_eq_some_iff.1 h
    obtain ⟨_, -, h⟩ := Option.bind_eq_some_iff.1 h
    obtain ⟨_, -, h⟩ := Option.bind_eq_some_iff.1 h
    obtain ⟨_, -, h⟩ := Option.bind_eq_some_iff.1 h
    obtain ⟨_, -, h⟩ := Option.bind_eq_some_iff.1 h
    obtain ⟨_, -, h⟩ := Option.bind_eq_some_iff.1 h
    obtain ⟨_, -, h⟩ := Option.bind_eq_some_iff.1 h
    obtain ⟨_, hcreated', h⟩ := Option.bind_eq_some_iff.1 h
    obtain ⟨_, hupdated', -⟩ := Option.bind_eq_some_iff.1 h
    simp only [requiredNames, List.forall_mem_cons]
    exact ⟨mem_keys_of_required hid hid', mem_keys_of_required htitle htitle', mem_keys_of_required hauthor hauthor',
      mem_keys_of_required hcreated hcreated', mem_keys_of_required hupdated hupdated', List.forall_mem_nil _⟩
  · cases h

theorem shows_toJson (issue : Issue) : issue.toJson.Shows issue.fields := by
  refine ⟨_, rfl, .of_forall₂ (show fieldNames.Nodup by decide) ?_⟩
  simp [fields, Field.required, Field.defaulted]

end Issue

namespace Milestone

def fields (m : Milestone) : List Field := [
  .required "id" (· = .natural m.id.toNat),
  .required "title" (· = text m.title),
  .defaulted "due_date" m.dueDate none (· = ofOption (fun due => text due.write) m.dueDate),
  .defaulted "is_open" m.isOpen true (· = .bool m.isOpen)]

def requiredNames : List String := ["id", "title"]

theorem ofJson?_of_shows {m : Milestone} {document : Json} (h : document.Shows m.fields) :
    ofJson? document = some m := by
  obtain ⟨entries, rfl, hshown⟩ := h
  have hadmits := hshown.admits_lookup
  simp only [fields, List.forall_mem_cons, Field.name_required, Field.name_defaulted] at hadmits
  obtain ⟨hid, htitle, hdue, hopen, -⟩ := hadmits
  have hid := required_of_admits hid (forall_eq.2 (toUInt64?_natural m.id))
  have htitle := required_of_admits htitle (forall_eq.2 (toText?_text m.title))
  have hdue := orDefault_of_admits hdue
    (forall_eq.2 (nullable_ofOption toDate?_write (fun due => text_ne_null due.write) m.dueDate))
  have hopen := orDefault_of_admits hopen (forall_eq.2 (toBool?_bool m.isOpen))
  rw [ofJson?, record?_of_distinct fieldNames hshown.distinct]
  show (required toUInt64? _).bind _ = _
  rw [hid, htitle, hdue, hopen]
  rfl

theorem mem_keys_of_ofJson? (entries : List (String × Json)) (m : Milestone)
    (h : ofJson? (Json.fields entries) = some m) : ∀ name ∈ requiredNames, name ∈ entries.map Prod.fst := by
  obtain ⟨values, hvalues, h⟩ := Option.bind_eq_some_iff.1 h
  have hfields := forall₂_of_record? hvalues
  split at h
  · simp only [fieldNames, List.forall₂_cons] at hfields
    obtain ⟨hid, htitle, -⟩ := hfields
    obtain ⟨_, hid', h⟩ := Option.bind_eq_some_iff.1 h
    obtain ⟨_, htitle', -⟩ := Option.bind_eq_some_iff.1 h
    simp only [requiredNames, List.forall_mem_cons]
    exact ⟨mem_keys_of_required hid hid', mem_keys_of_required htitle htitle', List.forall_mem_nil _⟩
  · cases h

theorem shows_toJson (m : Milestone) : m.toJson.Shows m.fields := by
  refine ⟨_, rfl, .of_forall₂ (show fieldNames.Nodup by decide) ?_⟩
  simp [fields, Field.required, Field.defaulted]

end Milestone

namespace Label

def fields (l : Label) : List Field := [.required "name" (· = text l.name)]

def requiredNames : List String := ["name"]

theorem ofJson?_of_shows {l : Label} {document : Json} (h : document.Shows l.fields) : ofJson? document = some l := by
  obtain ⟨entries, rfl, hshown⟩ := h
  have hadmits := hshown.admits_lookup
  simp only [fields, List.forall_mem_cons, Field.name_required] at hadmits
  have hname := required_of_admits hadmits.1 (forall_eq.2 (toText?_text l.name))
  rw [ofJson?, record?_of_distinct ["name"] hshown.distinct]
  show (required toText? _).bind _ = _
  rw [hname]
  rfl

theorem mem_keys_of_ofJson? (entries : List (String × Json)) (l : Label)
    (h : ofJson? (Json.fields entries) = some l) : ∀ name ∈ requiredNames, name ∈ entries.map Prod.fst := by
  obtain ⟨values, hvalues, h⟩ := Option.bind_eq_some_iff.1 h
  have hfields := forall₂_of_record? hvalues
  split at h
  · simp only [List.forall₂_cons] at hfields
    obtain ⟨_, hname, -⟩ := Option.bind_eq_some_iff.1 h
    simp only [requiredNames, List.forall_mem_cons]
    exact ⟨mem_keys_of_required hfields.1 hname, List.forall_mem_nil _⟩
  · cases h

theorem shows_toJson (l : Label) : l.toJson.Shows l.fields := by
  refine ⟨_, rfl, .of_forall₂ (List.nodup_singleton "name") ?_⟩
  simp [fields, Field.required]

end Label

namespace User

def fields (u : User) : List Field := [
  .required "login" (· = text u.login),
  .defaulted "name" u.name none (· = ofOption text u.name)]

def requiredNames : List String := ["login"]

theorem ofJson?_of_shows {u : User} {document : Json} (h : document.Shows u.fields) : ofJson? document = some u := by
  obtain ⟨entries, rfl, hshown⟩ := h
  have hadmits := hshown.admits_lookup
  simp only [fields, List.forall_mem_cons, Field.name_required, Field.name_defaulted] at hadmits
  obtain ⟨hlogin, hname, -⟩ := hadmits
  have hlogin := required_of_admits hlogin (forall_eq.2 (toText?_text u.login))
  have hname := orDefault_of_admits hname (forall_eq.2 (nullable_ofOption toText?_text text_ne_null u.name))
  rw [ofJson?, record?_of_distinct ["login", "name"] hshown.distinct]
  show (required toText? _).bind _ = _
  rw [hlogin, hname]
  rfl

theorem mem_keys_of_ofJson? (entries : List (String × Json)) (u : User)
    (h : ofJson? (Json.fields entries) = some u) : ∀ name ∈ requiredNames, name ∈ entries.map Prod.fst := by
  obtain ⟨values, hvalues, h⟩ := Option.bind_eq_some_iff.1 h
  have hfields := forall₂_of_record? hvalues
  split at h
  · simp only [List.forall₂_cons] at hfields
    obtain ⟨_, hlogin, -⟩ := Option.bind_eq_some_iff.1 h
    simp only [requiredNames, List.forall_mem_cons]
    exact ⟨mem_keys_of_required hfields.1 hlogin, List.forall_mem_nil _⟩
  · cases h

theorem shows_toJson (u : User) : u.toJson.Shows u.fields := by
  refine ⟨_, rfl, .of_forall₂ (show List.Nodup ["login", "name"] by decide) ?_⟩
  simp [fields, Field.required, Field.defaulted]

end User

namespace Snapshot

def fields (s : Snapshot) : List Field := [
  .listing "issues" s.issues Issue.fields,
  .listing "milestones" s.milestones Milestone.fields,
  .defaulted "current_milestone" s.currentMilestone none
    (· = ofOption (fun index => .natural index.toNat) s.currentMilestone),
  .listing "labels" s.labels Label.fields,
  .listing "collaborators" s.collaborators User.fields]

def requiredNames : List (String × List String) := [
  ("issues", Issue.requiredNames),
  ("milestones", Milestone.requiredNames),
  ("labels", Label.requiredNames),
  ("collaborators", User.requiredNames)]

def Maimed (document : Json) : Prop :=
  ∃ entries, document = Json.fields entries ∧
    ∃ list ∈ requiredNames, ∃ items, (list.1, Json.array items) ∈ entries ∧ ∃ item ∈ items, item.Lacks list.2

theorem ofJson?_of_shows {s : Snapshot} {document : Json} (h : document.Shows s.fields) :
    ofJson? document = some s := by
  obtain ⟨entries, rfl, hshown⟩ := h
  have hadmits := hshown.admits_lookup
  simp only [fields, List.forall_mem_cons, Field.listing, Field.name_defaulted] at hadmits
  obtain ⟨hissues, hmilestones, hcurrent, hlabels, hcollaborators, -⟩ := hadmits
  have hissues := orDefault_of_admits hissues (fun _ h => toList?_of_listing (fun _ _ => Issue.ofJson?_of_shows) h)
  have hmilestones := orDefault_of_admits hmilestones
    (fun _ h => toList?_of_listing (fun _ _ => Milestone.ofJson?_of_shows) h)
  have hcurrent := orDefault_of_admits hcurrent
    (forall_eq.2 (nullable_ofOption toUInt64?_natural natural_ne_null s.currentMilestone))
  have hlabels := orDefault_of_admits hlabels (fun _ h => toList?_of_listing (fun _ _ => Label.ofJson?_of_shows) h)
  have hcollaborators := orDefault_of_admits hcollaborators
    (fun _ h => toList?_of_listing (fun _ _ => User.ofJson?_of_shows) h)
  rw [ofJson?, record?_of_distinct fieldNames hshown.distinct]
  show (orDefault [] (toList? Issue.ofJson?) _).bind _ = _
  rw [hissues, hmilestones, hcurrent, hlabels, hcollaborators]
  rfl

theorem ofJson?_of_maimed {document : Json} (h : Maimed document) : ofJson? document = none := by
  obtain ⟨entries, rfl, list, hlist, items, hitems, item, hitem, hlacks⟩ := h
  refine Option.eq_none_iff_forall_ne_some.2 fun s h => ?_
  obtain ⟨values, hvalues, h⟩ := Option.bind_eq_some_iff.1 h
  have hfields := forall₂_of_record? hvalues
  split at h
  · simp only [fieldNames, List.forall₂_cons] at hfields
    obtain ⟨hissues, hmilestones, -, hlabels, hcollaborators, -⟩ := hfields
    obtain ⟨_, hissues', h⟩ := Option.bind_eq_some_iff.1 h
    obtain ⟨_, hmilestones', h⟩ := Option.bind_eq_some_iff.1 h
    obtain ⟨_, -, h⟩ := Option.bind_eq_some_iff.1 h
    obtain ⟨_, hlabels', h⟩ := Option.bind_eq_some_iff.1 h
    obtain ⟨_, hcollaborators', -⟩ := Option.bind_eq_some_iff.1 h
    simp only [requiredNames, List.mem_cons, List.not_mem_nil, or_false] at hlist
    rcases hlist with rfl | rfl | rfl | rfl
    · exact listing_refused hissues hitems hitem (none_of_lacks Issue.mem_keys_of_ofJson? hlacks) hissues'
    · exact listing_refused hmilestones hitems hitem (none_of_lacks Milestone.mem_keys_of_ofJson? hlacks) hmilestones'
    · exact listing_refused hlabels hitems hitem (none_of_lacks Label.mem_keys_of_ofJson? hlacks) hlabels'
    · exact listing_refused hcollaborators hitems hitem (none_of_lacks User.mem_keys_of_ofJson? hlacks)
        hcollaborators'
  · cases h

theorem shows_toJson (s : Snapshot) : s.toJson.Shows s.fields := by
  refine ⟨_, rfl, .of_forall₂ (show fieldNames.Nodup by decide) ?_⟩
  exact .cons ⟨rfl, _, rfl, forall₂_shows Issue.shows_toJson s.issues⟩ <|
    .cons ⟨rfl, _, rfl, forall₂_shows Milestone.shows_toJson s.milestones⟩ <| .cons ⟨rfl, rfl⟩ <|
    .cons ⟨rfl, _, rfl, forall₂_shows Label.shows_toJson s.labels⟩ <|
    .cons ⟨rfl, _, rfl, forall₂_shows User.shows_toJson s.collaborators⟩ .nil

theorem survives_document (s : Snapshot) :
    ofJson? s.toJson = some s ∧ s.toJson.Shows s.fields ∧
    (∀ document, document.Shows s.fields → ofJson? document = some s) ∧
    (∀ document, Maimed document → ofJson? document = none) :=
  ⟨ofJson?_of_shows s.shows_toJson, s.shows_toJson, fun _ h => ofJson?_of_shows h, fun _ h => ofJson?_of_maimed h⟩

end Snapshot

end Triage
