import Mathlib.Data.List.DropRight
import RedditKafka.Datetime.Isoformat

/-!
# The timestamp of a comment message

`RedditCommentMessage.validate_timestamp` in `src/models/reddit_comment.py`, and
the timestamps that `_process_comment` builds.
-/
namespace RedditKafka
open Gregorian

/-- `text.rstrip(c)`, for one character. -/
def rstrip (c : Char) (text : String) : String :=
  String.ofList (text.toList.reverse.dropWhile (· = c)).reverse

namespace RedditCommentMessage

def missingZ : String := "Timestamp must end with 'Z' (UTC timezone indicator)"

def invalidFormat (error : String) : String := "Invalid ISO-8601 timestamp format: " ++ error

/-- `reason` is what `fromisoformat` says about a text that it refuses. -/
def validateTimestamp (reason : String → String) (value : String) : Except String String :=
  if value.toList.getLast? ≠ some 'Z' then .error missingZ
  else
    match fromisoformat (rstrip 'Z' value) with
    | none => .error (invalidFormat (reason (rstrip 'Z' value)))
    | some _ => .ok value

/-- `datetime.now(UTC).replace(tzinfo=None).isoformat() + "Z"`. -/
def timestampAt (now : Datetime) : String := now.naive.isoformat ++ "Z"

/-- A timestamp without an offset, and one `Z`. -/
def IsTimestamp (value : String) : Prop :=
  ∃ text dt, value = text ++ "Z" ∧ text.toList.getLast? ≠ some 'Z' ∧
    fromisoformat text = some dt ∧ dt.utcoffset = none

/-- A timestamp that says too much: with an offset in front of the `Z`, or with more than one. -/
def SaysTooMuch (value : String) : Prop :=
  ∃ text dt more, value.toList = text.toList ++ List.replicate (more + 1) 'Z' ∧
    text.toList.getLast? ≠ some 'Z' ∧ fromisoformat text = some dt ∧
    (dt.utcoffset ≠ none ∨ 0 < more)

end RedditCommentMessage

/-! ## What `rstrip` leaves -/

section rstrip

variable {c : Char} {text stripped : String}

theorem toList_rstrip (c : Char) (text : String) :
    (rstrip c text).toList = text.toList.rdropWhile (· = c) :=
  String.toList_ofList

/-- The text is what is left and the characters that were stripped. -/
theorem rstrip_parts (c : Char) (text : String) :
    ∃ more, text.toList = (rstrip c text).toList ++ List.replicate more c ∧
      (rstrip c text).toList.getLast? ≠ some c := by
  rw [toList_rstrip]
  induction text.toList using List.reverseRecOn with
  | nil => exact ⟨0, rfl, nofun⟩
  | append_singleton chars last ih =>
      by_cases same : last = c
      · obtain ⟨more, parts, last⟩ := ih
        rw [List.rdropWhile_concat_pos _ _ _ (by simpa using same)]
        refine ⟨more + 1, ?_, last⟩
        rw [List.replicate_succ', ← List.append_assoc, ← parts, same]
      · rw [List.rdropWhile_concat_neg _ _ _ (by simpa using same)]
        refine ⟨0, by simp, ?_⟩
        rw [List.getLast?_concat]
        exact fun held => same (Option.some.inj held)

theorem rdropWhile_append_replicate (c : Char) (chars : List Char) (more : Nat) :
    (chars ++ List.replicate more c).rdropWhile (· = c) = chars.rdropWhile (· = c) := by
  induction more with
  | zero => rw [List.replicate_zero, List.append_nil]
  | succ more ih =>
      rw [List.replicate_succ', ← List.append_assoc, List.rdropWhile_concat_pos _ _ _ (by simp), ih]

theorem rstrip_eq {more : Nat} (parts : text.toList = stripped.toList ++ List.replicate more c)
    (last : stripped.toList.getLast? ≠ some c) : rstrip c text = stripped := by
  apply String.toList_inj.mp
  rw [toList_rstrip, parts, rdropWhile_append_replicate, List.rdropWhile_eq_self_iff]
  intro written same
  rw [List.getLast?_eq_some_getLast written] at last
  exact last (congrArg some (by simpa using same))

end rstrip

namespace RedditCommentMessage

variable {reason : String → String} {value : String}

theorem accepted_iff : (∃ v, validateTimestamp reason value = .ok v) ↔
    value.toList.getLast? = some 'Z' ∧ (fromisoformat (rstrip 'Z' value)).isSome := by
  unfold validateTimestamp
  constructor
  · rintro ⟨v, accepted⟩
    split at accepted
    · cases accepted
    · rename_i last
      split at accepted
      · cases accepted
      · rename_i dt read
        exact ⟨not_not.mp last, by simp [read]⟩
  · rintro ⟨last, read⟩
    obtain ⟨dt, read⟩ := Option.isSome_iff_exists.mp read
    exact ⟨value, by rw [if_neg (not_not.mpr last), read]⟩

/-- What ends in `Z` is what is left and at least one `Z`. -/
theorem stripped_of_last (last : value.toList.getLast? = some 'Z') :
    ∃ more, value.toList = (rstrip 'Z' value).toList ++ List.replicate (more + 1) 'Z' ∧
      (rstrip 'Z' value).toList.getLast? ≠ some 'Z' := by
  obtain ⟨more, parts, plain⟩ := rstrip_parts 'Z' value
  cases more with
  | zero =>
      rw [List.replicate_zero, List.append_nil] at parts
      exact absurd (parts ▸ last) plain
  | succ more => exact ⟨more, parts, plain⟩

theorem getLast_of_parts {chars : List Char} {more : Nat}
    (parts : value.toList = chars ++ List.replicate (more + 1) 'Z') :
    value.toList.getLast? = some 'Z' := by
  rw [parts, List.replicate_succ', ← List.append_assoc, List.getLast?_concat]

theorem IsTimestamp.accepted (h : IsTimestamp value) :
    ∃ v, validateTimestamp reason value = .ok v := by
  obtain ⟨text, dt, rfl, plain, read, -⟩ := h
  have parts : (text ++ "Z").toList = text.toList ++ List.replicate (0 + 1) 'Z' := by simp
  rw [accepted_iff, rstrip_eq parts plain, read]
  exact ⟨getLast_of_parts parts, rfl⟩

theorem SaysTooMuch.accepted (h : SaysTooMuch value) :
    ∃ v, validateTimestamp reason value = .ok v := by
  obtain ⟨text, dt, more, parts, plain, read, -⟩ := h
  rw [accepted_iff, rstrip_eq parts plain, read]
  exact ⟨getLast_of_parts parts, rfl⟩

theorem SaysTooMuch.not_isTimestamp (h : SaysTooMuch value) : ¬ IsTimestamp value := by
  obtain ⟨text, dt, more, parts, plain, read, much⟩ := h
  rintro ⟨text', dt', rfl, plain', read', naive⟩
  have parts' : (text' ++ "Z").toList = text'.toList ++ List.replicate (0 + 1) 'Z' := by simp
  obtain rfl : text = text' := (rstrip_eq parts plain).symm.trans (rstrip_eq parts' plain')
  cases read.symm.trans read'
  rcases much with offset | again
  · exact offset naive
  · have lengths := congrArg List.length (parts.symm.trans parts')
    simp only [List.length_append, List.length_replicate] at lengths
    omega

theorem accepted_cases (h : ∃ v, validateTimestamp reason value = .ok v) :
    IsTimestamp value ∨ SaysTooMuch value := by
  obtain ⟨last, read⟩ := accepted_iff.mp h
  obtain ⟨dt, read⟩ := Option.isSome_iff_exists.mp read
  obtain ⟨more, parts, plain⟩ := stripped_of_last last
  by_cases much : dt.utcoffset ≠ none ∨ 0 < more
  · exact .inr ⟨_, dt, more, parts, plain, read, much⟩
  · obtain ⟨naive, once⟩ := not_or.mp much
    obtain rfl : more = 0 := by omega
    refine .inl ⟨_, dt, ?_, plain, read, not_not.mp naive⟩
    apply String.toList_inj.mp
    rw [parts]
    simp

/-- The text of a naive datetime does not end in `Z`. -/
theorem isoformat_plain (d : NaiveDatetime) : d.isoformat.toList.getLast? ≠ some 'Z' := by
  rw [NaiveDatetime.isoformat, String.toList_ofList, NaiveDatetime.isochars,
    List.getLast?_append_of_ne_nil _ (List.cons_ne_nil _ _)]
  intro last
  have member : 'Z' ∈ d.timeChars := by simpa using List.mem_of_getLast? last
  cases (d.timeChars_noOffset 'Z' member)

/-- The validator accepts exactly the timestamps of its format, unless a text says too much; and
it accepts every timestamp that the worker builds. -/
theorem validateTimestamp_iff (reason : String → String) :
    (∀ value, ((∃ v, validateTimestamp reason value = .ok v) ↔ IsTimestamp value) ↔
      ¬ SaysTooMuch value) ∧
    ∀ now, (∃ v, validateTimestamp reason (timestampAt now) = .ok v) ∧
      IsTimestamp (timestampAt now) := by
  constructor
  · intro value
    constructor
    · intro format much
      exact much.not_isTimestamp (format.mp much.accepted)
    · intro exact_
      exact ⟨fun accepted => (accepted_cases accepted).resolve_right exact_, IsTimestamp.accepted⟩
  · intro now
    have built : IsTimestamp (timestampAt now) :=
      ⟨_, _, rfl, isoformat_plain now.naive, now.naive.fromisoformat_isoformat, rfl⟩
    exact ⟨built.accepted, built⟩

/-- One o'clock in a zone five hours ahead, marked as UTC. -/
theorem offset_accepted : ¬ ∀ value,
    (∃ v, validateTimestamp id value = .ok v) ↔ IsTimestamp value := by
  intro claim
  have read : (fromisoformat "2026-05-09T01:00:00+05:00").any (·.utcoffset ≠ none) = true := by
    decide +kernel
  obtain ⟨dt, read, offset⟩ := (Option.any_eq_true _ _).mp read
  have much : SaysTooMuch "2026-05-09T01:00:00+05:00Z" :=
    ⟨"2026-05-09T01:00:00+05:00", dt, 0, by decide, by decide, read, .inl (by simpa using offset)⟩
  exact much.not_isTimestamp ((claim _).mp much.accepted)

end RedditCommentMessage
end RedditKafka
