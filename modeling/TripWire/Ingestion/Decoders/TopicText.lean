import Mathlib.Data.List.Forall2
import TripWire.Ingestion.Decoders.AbiGeneric

/-!
# Topics in a text

A Mirror pipeline delivers topics as a list, a Turbo pipeline as one text with commas.
`parseTopics_padded` is what the two have in common: topics that a comma-separated list can hold
(`IsTopic`) are given back by the text that joins them, whatever spaces stand around them.
-/

namespace TripWire

open Py

/-- A text that a comma-separated list gives back as it is. -/
structure IsTopic (s : String) : Prop where
  noComma : ',' ∉ s.toList
  stripped : stripChars s.toList = s.toList
  ne_nil : s.toList ≠ []

/-- A topic with spaces around it. -/
def IsPadded (topic part : String) : Prop :=
  ∃ before after : List Char, (∀ c ∈ before, isSpace c = true) ∧ (∀ c ∈ after, isSpace c = true) ∧
    part.toList = before ++ topic.toList ++ after

theorem isPadded_self (topic : String) : IsPadded topic topic :=
  ⟨[], [], by simp, by simp, by simp⟩

theorem IsPadded.strip_eq {topic part : String} (h : IsPadded topic part) (htopic : IsTopic topic) :
    stripChars part.toList = topic.toList := by
  obtain ⟨before, after, hbefore, hafter, hpart⟩ := h
  rw [hpart, stripChars_append hbefore hafter, htopic.stripped]

theorem IsPadded.noComma {topic part : String} (h : IsPadded topic part) (htopic : IsTopic topic) :
    ',' ∉ part.toList := by
  have hcomma : isSpace ',' = false := by decide
  obtain ⟨before, after, hbefore, hafter, hpart⟩ := h
  rw [hpart, List.mem_append, List.mem_append]
  rintro ((hc | hc) | hc)
  · exact absurd (hbefore _ hc) (by simp [hcomma])
  · exact htopic.noComma hc
  · exact absurd (hafter _ hc) (by simp [hcomma])

section

variable {topics parts : List String} (htopics : ∀ t ∈ topics, IsTopic t)
  (hparts : List.Forall₂ IsPadded topics parts)

include htopics hparts

theorem noComma_parts : ∀ cs ∈ parts.map String.toList, ',' ∉ cs := by
  induction hparts with
  | nil => simp
  | cons hpart _ ih =>
    rw [List.forall_mem_cons] at htopics
    rw [List.map_cons, List.forall_mem_cons]
    exact ⟨hpart.noComma htopics.1, ih htopics.2⟩

/-- The parts of a text, stripped, are the topics. -/
theorem stripped_parts :
    (parts.map String.toList).map stripChars = topics.map String.toList := by
  induction hparts with
  | nil => rfl
  | cons hpart _ ih =>
    rw [List.forall_mem_cons] at htopics
    rw [List.map_cons, List.map_cons, List.map_cons, hpart.strip_eq htopics.1, ih htopics.2]

/-- **A comma-separated text gives its topics back.** -/
theorem parseTopics_padded (hne : topics ≠ []) :
    parseTopics (.text (",".intercalate parts)) = topics := by
  have hsplit : splitCommas (",".intercalate parts).toList = parts.map String.toList := by
    have hcommas := noComma_parts htopics hparts
    rw [String.toList_intercalate]
    cases hparts with
    | nil => exact absurd rfl hne
    | cons _ _ => exact splitCommas_intercalate hcommas
  have hkept : ∀ cs ∈ topics.map String.toList, decide (cs ≠ []) = true := by
    intro cs hcs
    obtain ⟨t, ht, rfl⟩ := List.mem_map.mp hcs
    exact decide_eq_true (htopics t ht).ne_nil
  rw [parseTopics, hsplit, stripped_parts htopics hparts, List.filter_eq_self.mpr hkept]
  simp

end

theorem parseTopics_intercalate {topics : List String} (htopics : ∀ t ∈ topics, IsTopic t)
    (hne : topics ≠ []) : parseTopics (.text (",".intercalate topics)) = topics :=
  parseTopics_padded htopics (List.forall₂_same.mpr fun t _ => isPadded_self t) hne

end TripWire
