import AntiForgery.Proofs.Config
import AntiForgery.Proofs.Text.Blank
import Mathlib.Data.List.Forall2

/-!
# The origins that a text lists

Origins stand between commas, with white space around them that counts for nothing, and where there is
nothing between two commas there is no origin.  A configuration takes any text for them, and the text does
not touch what else is configured.
-/

namespace AntiForgery

namespace Text

theorem join_eq_intercalate (separator : α) (parts : List (List α)) :
    join separator parts = [separator].intercalate parts := by
  induction parts with
  | nil => rfl
  | cons part others ih =>
      cases others with
      | nil => simp [join]
      | cons other others => simp [join, ih]

end Text

namespace Config

/-! ## The list -/

/-- The origins are what is left between the commas of a text, in order. -/
def Lists (text : String) (origins : List String) : Prop :=
  ∃ pieces middles : List (List Char),
    pieces ≠ [] ∧
    (∀ piece ∈ pieces, ',' ∉ piece) ∧
    text.toList = Text.join ',' pieces ∧
    List.Forall₂ Text.Trims pieces middles ∧
    origins.map String.toList = middles.filter fun middle => middle ≠ []

theorem forall₂_trims_iff {pieces middles : List (List Char)} :
    List.Forall₂ Text.Trims pieces middles ↔ middles = pieces.map Text.trimChars := by
  induction pieces generalizing middles with
  | nil => simp
  | cons piece others ih => simp [List.forall₂_cons_left_iff, Text.trims_iff, ih]

/-- The origins are the pieces between commas, trimmed, without those that are blank. -/
theorem map_toList_originsOf (text : String) :
    (originsOf text).map String.toList =
      ((Text.pieces ',' text.toList).map Text.trimChars).filter fun middle => middle ≠ [] := by
  rw [originsOf, List.map_map]
  simp only [Function.comp_def, String.toList_ofList, List.map_id']
  exact List.filter_congr fun middle _ => by cases middle <;> rfl

/-- Exactly the origins that a text lists are read from it. -/
theorem lists_iff {text : String} {origins : List String} :
    Lists text origins ↔ origins = originsOf text := by
  constructor
  · rintro ⟨pieces, middles, filled, whole, joined, trims, kept⟩
    obtain rfl := forall₂_trims_iff.mp trims
    rw [← Text.pieces_join filled whole, ← joined, ← map_toList_originsOf] at kept
    exact List.map_injective_iff.mpr (fun _ _ => String.toList_inj.mp) kept
  · rintro rfl
    exact ⟨Text.pieces ',' text.toList, _, Text.pieces_ne_nil _ _,
      fun _ => Text.not_mem_of_mem_pieces, (Text.join_pieces _ _).symm, forall₂_trims_iff.mpr rfl,
      map_toList_originsOf text⟩

/-- An origin that is listed is not empty, holds no comma and has nothing around it to trim. -/
theorem of_mem_originsOf {text origin : String} (listed : origin ∈ originsOf text) :
    origin.toList ≠ [] ∧ ',' ∉ origin.toList ∧ Text.trimChars origin.toList = origin.toList := by
  have member := List.mem_map_of_mem (f := String.toList) listed
  rw [map_toList_originsOf, List.mem_filter, List.mem_map, decide_eq_true_eq] at member
  obtain ⟨⟨piece, inside, trimmed⟩, filled⟩ := member
  have trims := Text.trims_iff.mpr trimmed.symm
  exact ⟨filled, fun comma => Text.not_mem_of_mem_pieces inside (trims.mem _ comma),
    (Text.eq_trimChars (Text.trims_self_of_trims trims)).symm⟩

/-- The origins between commas are listed as they are. -/
theorem originsOf_intercalate (text : String) :
    originsOf (String.intercalate "," (originsOf text)) = originsOf text := by
  by_cases none : originsOf text = []
  · rw [none]
    rfl
  · have spelt : (String.intercalate "," (originsOf text)).toList =
        Text.join ',' ((originsOf text).map String.toList) := by
      rw [String.toList_intercalate, Text.join_eq_intercalate]
      rfl
    have sound : ∀ origin ∈ (originsOf text).map String.toList,
        origin ≠ [] ∧ ',' ∉ origin ∧ Text.trimChars origin = origin :=
      List.forall_mem_map.mpr fun _ => of_mem_originsOf
    have trimmed : ((originsOf text).map String.toList).map Text.trimChars =
        (originsOf text).map String.toList :=
      (List.map_congr_left fun origin listed => (sound origin listed).2.2).trans (List.map_id _)
    have kept : ((originsOf text).map String.toList).filter (fun middle => middle ≠ []) =
        (originsOf text).map String.toList :=
      List.filter_eq_self.mpr fun origin listed => decide_eq_true (sound origin listed).1
    exact (lists_iff.mp ⟨_, _, by simpa using none, fun origin listed => (sound origin listed).2.1,
      spelt, forall₂_trims_iff.mpr trimmed.symm, kept.symm⟩).symm

/-! ## The variable -/

/-- The variables with another text for the origins. -/
def Lookup.withOrigins (text : String) (lookup : Lookup) : Lookup := fun name =>
  if name = "ALLOWED_ORIGINS" then some text else lookup name

/-- Whatever text the origins are set to, the rest of the configuration stays as it is. -/
theorem ofLookup_withOrigins
    {lookup : Lookup}
    {config : Config}
    (accepted : ofLookup lookup = .ok config)
    (text : String) :
    ofLookup (lookup.withOrigins text) = .ok { config with origins := originsOf text } := by
  obtain ⟨secret, readSecret, accepted⟩ := bind_eq_ok_iff.mp accepted
  obtain ⟨tokenWindow, readWindow, accepted⟩ := bind_eq_ok_iff.mp accepted
  obtain ⟨sessionDays, readDays, accepted⟩ := bind_eq_ok_iff.mp accepted
  obtain ⟨backend, readBackend, accepted⟩ := bind_eq_ok_iff.mp accepted
  obtain ⟨bindAddress, readAddress, accepted⟩ := bind_eq_ok_iff.mp accepted
  cases accepted
  exact bind_eq_ok_iff.mpr ⟨secret, readSecret, bind_eq_ok_iff.mpr ⟨tokenWindow, readWindow,
    bind_eq_ok_iff.mpr ⟨sessionDays, readDays, bind_eq_ok_iff.mpr ⟨backend, readBackend,
      bind_eq_ok_iff.mpr ⟨bindAddress, readAddress, rfl⟩⟩⟩⟩⟩

end Config
end AntiForgery
