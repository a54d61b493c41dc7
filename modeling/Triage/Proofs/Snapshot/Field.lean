import Mathlib.Data.List.Forall2
import Mathlib.Data.List.Nodup
import Triage.Snapshot.Document

/-!
Records in documents. A record of which some fields may be left out is shown by many objects: each of its fields stands
there once, with a value that it may have, or is left out if it may be. Reading an object asks for the fields by name, so
that it does not depend on their order.
-/

namespace Triage

structure Field where
  name : String
  Stands : Json → Prop
  MayBeAbsent : Prop

namespace Field

variable {α : Type}

def required (name : String) (Stands : Json → Prop) : Field := ⟨name, Stands, False⟩

def defaulted (name : String) (a default : α) (Stands : Json → Prop) : Field := ⟨name, Stands, a = default⟩

@[simp] theorem name_required (name : String) (Stands : Json → Prop) : (required name Stands).name = name := rfl

@[simp] theorem name_defaulted (name : String) (a default : α) (Stands : Json → Prop) :
    (defaulted name a default Stands).name = name :=
  rfl

def Admits (f : Field) : Option Json → Prop
  | some value => f.Stands value
  | none => f.MayBeAbsent

/-- The entries of an object that shows the fields, in any order and perhaps among others. -/
structure Shown (fs : List Field) (entries : List (String × Json)) : Prop where
  distinct : (entries.map Prod.fst).Nodup
  stands : ∀ f ∈ fs, ∀ value, (f.name, value) ∈ entries → f.Stands value
  absent : ∀ f ∈ fs, f.name ∉ entries.map Prod.fst → f.MayBeAbsent

theorem exists_entry {fs : List Field} {entries : List (String × Json)} {f : Field}
    (h : List.Forall₂ (fun f entry => f.name = entry.1 ∧ f.Stands entry.2) fs entries) (hf : f ∈ fs) :
    ∃ entry ∈ entries, f.name = entry.1 ∧ f.Stands entry.2 := by
  induction h with
  | nil => cases hf
  | @cons g entry fs entries hentry _ ih =>
      rcases List.mem_cons.1 hf with rfl | hf
      · exact ⟨entry, List.mem_cons_self, hentry⟩
      · obtain ⟨found, hmem, hfound⟩ := ih hf
        exact ⟨found, List.mem_cons_of_mem entry hmem, hfound⟩

theorem Shown.of_forall₂ {fs : List Field} {entries : List (String × Json)} (hdistinct : (entries.map Prod.fst).Nodup)
    (h : List.Forall₂ (fun f entry => f.name = entry.1 ∧ f.Stands entry.2) fs entries) : Shown fs entries := by
  refine ⟨hdistinct, fun f hf value hvalue => ?_, fun f hf habsent => ?_⟩
  · obtain ⟨entry, hmem, hname, hstands⟩ := exists_entry h hf
    have hentry : entry = (f.name, value) := List.inj_on_of_nodup_map hdistinct hmem hvalue hname.symm
    rwa [hentry] at hstands
  · obtain ⟨entry, hmem, hname, -⟩ := exists_entry h hf
    exact absurd (List.mem_map.2 ⟨entry, hmem, hname.symm⟩) habsent

theorem Shown.admits_lookup {fs : List Field} {entries : List (String × Json)} (h : Shown fs entries) :
    ∀ f ∈ fs, f.Admits (entries.lookup f.name) := by
  intro f hf
  cases hlookup : entries.lookup f.name with
  | none =>
      rw [List.lookup_eq_none_iff] at hlookup
      refine h.absent f hf fun hmem => ?_
      obtain ⟨entry, hentry, hname⟩ := List.mem_map.1 hmem
      exact absurd hname.symm (bne_iff_ne.1 (hlookup entry hentry))
  | some value =>
      obtain ⟨before, after, heq, -⟩ := List.lookup_eq_some_iff.1 hlookup
      exact h.stands f hf value (heq ▸ List.mem_append_right before List.mem_cons_self)

end Field

namespace Json

def Shows (document : Json) (fs : List Field) : Prop :=
  ∃ entries, document = Json.fields entries ∧ Field.Shown fs entries

def Lacks (document : Json) (names : List String) : Prop :=
  ∃ entries, document = Json.fields entries ∧ ∃ name ∈ names, name ∉ entries.map Prod.fst

def keyed (entries : List (String × Json)) : List (Option Text × Json) :=
  entries.map fun (key, value) => (some key.toList, value)

section

variable {entries : List (String × Json)} {name : String}

theorem filter_keyed (entries : List (String × Json)) (name : String) :
    (keyed entries).filter (fun (key, _) => key == some name.toList) =
      keyed (entries.filter fun (key, _) => key == name) := by
  rw [keyed, List.filter_map]
  refine congrArg _ (List.filter_congr fun entry _ => ?_)
  rw [Bool.eq_iff_iff, Function.comp_apply, beq_iff_eq, beq_iff_eq, Option.some.injEq, String.toList_inj]

theorem filter_key_eq_nil (h : name ∉ entries.map Prod.fst) : (entries.filter fun (key, _) => key == name) = [] := by
  refine List.filter_eq_nil_iff.2 fun entry hentry hkey => h ?_
  exact List.mem_map.2 ⟨entry, hentry, eq_of_beq hkey⟩

theorem filter_key_of_distinct (h : (entries.map Prod.fst).Nodup) (name : String) :
    (entries.filter fun (key, _) => key == name) = ((entries.lookup name).map fun value => (name, value)).toList := by
  induction entries with
  | nil => rfl
  | cons entry rest ih =>
      obtain ⟨key, value⟩ := entry
      obtain ⟨hkey, hrest⟩ := List.nodup_cons.1 h
      by_cases heq : key = name
      · subst heq
        rw [List.filter_cons, if_pos (beq_self_eq_true key), filter_key_eq_nil hkey, List.lookup_cons_self]
        rfl
      · rw [List.filter_cons, if_neg (by simpa using heq), ih hrest, List.lookup_cons,
          beq_eq_false_iff_ne.2 (Ne.symm heq)]

theorem field?_of_distinct (h : (entries.map Prod.fst).Nodup) (name : String) :
    field? (keyed entries) name.toList = some (entries.lookup name) := by
  rw [field?, filter_keyed, filter_key_of_distinct h]
  cases entries.lookup name <;> rfl

theorem field?_of_absent (h : name ∉ entries.map Prod.fst) : field? (keyed entries) name.toList = some none := by
  rw [field?, filter_keyed, filter_key_eq_nil h]
  rfl

theorem field?_of_mem {value : Json} {found : Option Json} (h : field? (keyed entries) name.toList = some found)
    (hmem : (name, value) ∈ entries) : found = some value := by
  have hfilter : (name, value) ∈ entries.filter fun (key, _) => key == name :=
    List.mem_filter.2 ⟨hmem, beq_self_eq_true name⟩
  rw [field?, filter_keyed] at h
  match hentries : entries.filter fun (key, _) => key == name with
  | [] =>
      rw [hentries] at hfilter
      cases hfilter
  | [entry] =>
      rw [hentries] at hfilter h
      cases List.mem_singleton.1 hfilter
      exact (Option.some.inj h).symm
  | _ :: _ :: _ =>
      rw [hentries] at h
      cases h

theorem record?_fields (names : List String) (entries : List (String × Json)) :
    record? names (Json.fields entries) = names.mapM fun name => field? (keyed entries) name.toList := by
  have hnamed : (keyed entries).all fun (key, _) => key.isSome := by simp [keyed]
  exact if_pos hnamed

theorem record?_of_distinct (names : List String) (h : (entries.map Prod.fst).Nodup) :
    record? names (Json.fields entries) = some (names.map fun name => entries.lookup name) := by
  rw [record?_fields]
  simp only [field?_of_distinct h]
  exact List.mapM_pure

end

section

variable {α β : Type}

theorem forall₂_of_mapM {read : α → Option β} {as : List α} {bs : List β} (h : as.mapM read = some bs) :
    List.Forall₂ (fun a b => read a = some b) as bs := by
  induction as generalizing bs with
  | nil =>
      cases h
      exact .nil
  | cons a as ih =>
      rw [List.mapM_cons] at h
      obtain ⟨b, hb, h⟩ := Option.bind_eq_some_iff.1 h
      obtain ⟨rest, hrest, h⟩ := Option.bind_eq_some_iff.1 h
      cases h
      exact .cons hb (ih hrest)

theorem mapM_of_forall₂ {read : α → Option β} {as : List α} {bs : List β}
    (h : List.Forall₂ (fun b a => read a = some b) bs as) : as.mapM read = some bs := by
  induction h with
  | nil => rfl
  | cons ha _ ih =>
      rw [List.mapM_cons, ha, ih]
      rfl

theorem mapM_eq_none {read : α → Option β} {as : List α} {a : α} (ha : a ∈ as) (h : read a = none) :
    as.mapM read = none := by
  induction as with
  | nil => cases ha
  | cons first rest ih =>
      rw [List.mapM_cons]
      rcases List.mem_cons.1 ha with rfl | ha
      · rw [h]
        rfl
      · rw [ih ha]
        cases read first <;> rfl

theorem forall₂_of_record? {names : List String} {entries : List (String × Json)} {values : List (Option Json)}
    (h : record? names (Json.fields entries) = some values) :
    List.Forall₂ (fun name value => field? (keyed entries) name.toList = some value) names values := by
  rw [record?_fields] at h
  exact forall₂_of_mapM h

end

variable {α : Type} {name : String} {Stands : Json → Prop} {read : Json → Option α} {found : Option Json}
  {a default : α}

theorem required_of_admits (h : (Field.required name Stands).Admits found)
    (hread : ∀ value, Stands value → read value = some a) : required read found = some a := by
  cases found with
  | none => exact absurd h not_false
  | some value => exact hread value h

theorem orDefault_of_admits (h : (Field.defaulted name a default Stands).Admits found)
    (hread : ∀ value, Stands value → read value = some a) : orDefault default read found = some a := by
  cases found with
  | none => exact congrArg some (Eq.symm h)
  | some value => exact hread value h

theorem mem_keys_of_required {entries : List (String × Json)}
    (hfield : field? (keyed entries) name.toList = some found) (hread : required read found = some a) :
    name ∈ entries.map Prod.fst := by
  refine Decidable.byContradiction fun habsent => ?_
  rw [field?_of_absent habsent] at hfield
  cases hfield
  cases hread

theorem none_of_lacks {names : List String}
    (hread : ∀ entries a, read (Json.fields entries) = some a → ∀ name ∈ names, name ∈ entries.map Prod.fst)
    {document : Json} (h : document.Lacks names) : read document = none := by
  obtain ⟨entries, rfl, name, hname, habsent⟩ := h
  exact Option.eq_none_iff_forall_ne_some.2 fun a ha => habsent (hread entries a ha name hname)

theorem toUInt64?_natural (n : UInt64) : toUInt64? (.natural n.toNat) = some n := by
  rw [toUInt64?, if_pos n.toNat_lt, UInt64.ofNat_toNat]

theorem toUInt32?_natural (n : UInt32) : toUInt32? (.natural n.toNat) = some n := by
  rw [toUInt32?, if_pos n.toNat_lt, UInt32.ofNat_toNat]

theorem toText?_text (t : Text) : toText? (text t) = some t := rfl

theorem toBool?_bool (b : Bool) : toBool? (.bool b) = some b := rfl

theorem text_ne_null (t : Text) : text t ≠ .null := Json.noConfusion

theorem natural_ne_null (n : UInt64) : natural n.toNat ≠ .null := Json.noConfusion

theorem nullable_ofOption {write : α → Json} (hread : ∀ a, read (write a) = some a) (hnull : ∀ a, write a ≠ .null)
    (value : Option α) : nullable read (ofOption write value) = some value := by
  cases value with
  | none => rfl
  | some a =>
      rw [ofOption, nullable.eq_2 _ _ (hnull a), hread]
      rfl

theorem toList?_map {write : α → Json} (hread : ∀ a, read (write a) = some a) (as : List α) :
    toList? read (.array (as.map write)) = some as :=
  mapM_of_forall₂ (List.forall₂_map_right_iff.2 (List.forall₂_same.2 fun a _ => hread a))

end Json

def Field.listing {α : Type} (name : String) (as : List α) (fields : α → List Field) : Field :=
  .defaulted name as [] fun value =>
    ∃ items, value = .array items ∧ List.Forall₂ (fun a item => item.Shows (fields a)) as items

namespace Json

variable {α : Type} {read : Json → Option α} {fields : α → List Field} {as : List α}

theorem toList?_of_listing {value : Json} (hread : ∀ a document, document.Shows (fields a) → read document = some a)
    (h : ∃ items, value = .array items ∧ List.Forall₂ (fun a item => item.Shows (fields a)) as items) :
    toList? read value = some as := by
  obtain ⟨items, rfl, hitems⟩ := h
  exact mapM_of_forall₂ (hitems.imp hread)

theorem forall₂_shows {write : α → Json} (h : ∀ a, (write a).Shows (fields a)) (as : List α) :
    List.Forall₂ (fun a item => item.Shows (fields a)) as (as.map write) :=
  List.forall₂_map_right_iff.2 (List.forall₂_same.2 fun a _ => h a)

theorem listing_refused {entries : List (String × Json)} {name : String} {items : List Json} {item : Json}
    {found : Option Json} (hfield : field? (keyed entries) name.toList = some found)
    (hitems : (name, Json.array items) ∈ entries) (hitem : item ∈ items) (h : read item = none) :
    orDefault [] (toList? read) found ≠ some as := by
  rw [field?_of_mem hfield hitems, orDefault, toList?, mapM_eq_none hitem h]
  exact nofun

end Json

end Triage
