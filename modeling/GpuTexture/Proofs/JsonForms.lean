import Mathlib
import GpuTexture.Json.Values
import GpuTexture.Proofs.JsonText

/-!
# Reading back records

The members of an object are found by name in whatever order they stand, so a record is read back
from the form in which it is printed.
-/

namespace GpuTexture

namespace Json

section Members

variable {α : Type} {members : List (String × α)}

theorem lookup_eq_some_iff_mem (hnodup : (members.map Prod.fst).Nodup) {name : String} {value : α} :
    members.lookup name = some value ↔ (name, value) ∈ members := by
  induction members with
  | nil => simp
  | cons member others ih =>
    obtain ⟨first, stored⟩ := member
    rw [List.map_cons, List.nodup_cons] at hnodup
    rw [List.lookup_cons, List.mem_cons, Prod.mk.injEq]
    by_cases hname : name = first
    · subst hname
      have habsent : (name, value) ∉ others := fun hmember =>
        hnodup.1 (List.mem_map.mpr ⟨_, hmember, rfl⟩)
      simp [habsent, eq_comm]
    · have hother : (name == first) = false := beq_eq_false_iff_ne.mpr hname
      simp [hother, hname, ih hnodup.2]

private theorem lookup_inOrder (hnodup : (members.map Prod.fst).Nodup) (name : String) :
    (inOrder members).lookup name = members.lookup name := by
  apply Option.ext
  intro value
  rw [lookup_eq_some_iff_mem hnodup, lookup_eq_some_iff_mem (nodup_inOrder.mpr hnodup), mem_inOrder]

private theorem lookup_map {β : Type} (members : List (String × α)) (change : α → β)
    (name : String) :
    (members.map fun member => (member.1, change member.2)).lookup name =
      (members.lookup name).map change := by
  induction members with
  | nil => rfl
  | cons member others ih =>
    obtain ⟨first, stored⟩ := member
    rw [List.map_cons, List.lookup_cons, List.lookup_cons]
    cases name == first with
    | true => rfl
    | false => exact ih

end Members

section Objects

variable {members : List (String × Json)}

private theorem lookup_sorted (hnodup : (members.map Prod.fst).Nodup) (name : String) :
    (inOrder (members.map fun member => (member.1, member.2.sorted))).lookup name =
      (members.lookup name).map sorted := by
  have hnames : ((members.map fun member => (member.1, member.2.sorted)).map Prod.fst).Nodup := by
    rw [List.map_map]
    exact hnodup
  rw [lookup_inOrder hnames, lookup_map]

theorem member?_sorted (hnodup : (members.map Prod.fst).Nodup) (name : String) :
    (object members).sorted.member? name = ((object members).member? name).map sorted := by
  rw [sorted]
  exact lookup_sorted hnodup name

private theorem mapM_lookup_eq_some {names : List String} {values : List Json}
    (hlength : names.length = values.length)
    (hfound : ∀ member ∈ names.zip values, members.lookup member.1 = some member.2) :
    (names.mapM fun name => members.lookup name) = some values := by
  induction names generalizing values with
  | nil =>
    rw [List.length_nil] at hlength
    rw [List.length_eq_zero_iff.mp hlength.symm]
    rfl
  | cons name names ih =>
    obtain ⟨value, others, rfl⟩ := List.exists_cons_of_length_eq_add_one hlength.symm
    rw [List.zip_cons_cons] at hfound
    have hfirst := hfound _ List.mem_cons_self
    have hothers := ih (Nat.succ.inj hlength) fun member hmember =>
      hfound member (List.mem_cons_of_mem _ hmember)
    rw [List.mapM_cons, hfirst, hothers]
    rfl

/-- The parts of a record are found in whatever order its members are printed. -/
private theorem parts?_sorted {names : List String} (hnames : names.Nodup) (values : List Json)
    (hlength : names.length = values.length) :
    (object (names.zip values)).sorted.parts? names = some (values.map sorted) := by
  have hfst : (names.zip values).map Prod.fst = names :=
    List.map_fst_zip (Nat.le_of_eq hlength)
  rw [sorted]
  change (names.mapM fun name => (inOrder _).lookup name) = _
  apply mapM_lookup_eq_some (by rw [List.length_map, hlength])
  intro member hmember
  rw [List.zip_map_right] at hmember
  obtain ⟨stored, hstored, rfl⟩ := List.mem_map.mp hmember
  rw [lookup_sorted (hfst.symm ▸ hnames)]
  change ((names.zip values).lookup stored.1).map sorted = _
  rw [(lookup_eq_some_iff_mem (hfst.symm ▸ hnames)).mpr hstored]
  rfl

private theorem parts?_sorted_three {first second third : String}
    (hnames : [first, second, third].Nodup) (a b c : Json) :
    (object [(first, a), (second, b), (third, c)]).sorted.parts?
      [first, second, third] = some [a.sorted, b.sorted, c.sorted] :=
  parts?_sorted hnames [a, b, c] rfl

end Objects

end Json

/-- What is printed for a value is read back as the value. -/
class LawfulJsonForm (α : Type) [JsonForm α] : Prop where
  isPlain : ∀ value : α, (toJson value).IsPlain
  ofJson?_sorted : ∀ value : α, ofJson? (toJson value).sorted = some value

open Json LawfulJsonForm

private theorem Json.natBelow?_integer {bound value : Nat} (hvalue : value < bound) :
    natBelow? bound (.integer value) = some value :=
  if_pos hvalue

instance : LawfulJsonForm UInt32 where
  isPlain word := .integer (by omega) (by have := word.toNat_lt; omega)
  ofJson?_sorted word := by
    have hsorted : (toJson word).sorted = .integer word.toNat := by
      change sorted (.integer word.toNat) = _
      simp only [sorted]
    rw [hsorted]
    change (natBelow? UInt32.size (.integer word.toNat)).map UInt32.ofNat = _
    rw [natBelow?_integer word.toNat_lt, Option.map_some, UInt32.ofNat_toNat]

instance : LawfulJsonForm UInt64 where
  isPlain word := .integer (by omega) (by have := word.toNat_lt; omega)
  ofJson?_sorted word := by
    have hsorted : (toJson word).sorted = .integer word.toNat := by
      change sorted (.integer word.toNat) = _
      simp only [sorted]
    rw [hsorted]
    change (natBelow? UInt64.size (.integer word.toNat)).map UInt64.ofNat = _
    rw [natBelow?_integer word.toNat_lt, Option.map_some, UInt64.ofNat_toNat]

instance : LawfulJsonForm Extent where
  isPlain extent := .object (by simp) (by simp [isPlain])
  ofJson?_sorted extent := by
    have hparts : (toJson extent).sorted.parts? ["width", "height", "depth_or_array_layers"] = _ :=
      parts?_sorted_three (by decide) _ _ _
    change (match (toJson extent).sorted.parts? _ with | some [_, _, _] => _ | _ => none) = _
    rw [hparts]
    simp only [ofJson?_sorted]
    rfl

instance : LawfulJsonForm BufferLayout where
  isPlain layout := .object (by simp) (by simp [isPlain])
  ofJson?_sorted layout := by
    have hparts : (toJson layout).sorted.parts? ["offset", "bytes_per_row", "rows_per_image"] = _ :=
      parts?_sorted_three (by decide) _ _ _
    change (match (toJson layout).sorted.parts? _ with | some [_, _, _] => _ | _ => none) = _
    rw [hparts]
    simp only [ofJson?_sorted]
    rfl

instance : LawfulJsonForm LevelLayout where
  isPlain level := .object (by simp) (by simp [isPlain])
  ofJson?_sorted level := by
    have hparts : (toJson level).sorted.parts? ["mip", "layout", "extent"] = _ :=
      parts?_sorted_three (by decide) _ _ _
    change (match (toJson level).sorted.parts? _ with | some [_, _, _] => _ | _ => none) = _
    rw [hparts]
    simp only [ofJson?_sorted]
    rfl

end GpuTexture
