import ClipCadence.Proofs.Number.Digits
import ClipCadence.Proofs.Run.Refusal

/-!
Payloads can be told apart. The label of a payload may be any text, so it is not looked for from
the front: the time at the end has a fixed width, the digits of the index end at the space in front
of them, and what is left is the label. So a payload gives back its label, its index and the time
of day, and a run, which counts its events, never writes a text twice.

Main statement: `payloads_decode`.
-/

namespace ClipCadence

open Number

/-! ### The time of day -/

namespace Moment

theorem secondOfDay_lt (m : Moment) : m.secondOfDay < 86400 := by
  have hday : m.micros % microsPerDay < microsPerDay := Nat.mod_lt _ (by decide)
  rw [secondOfDay, Nat.div_lt_iff_lt_mul (by decide)]
  exact hday

theorem hour_lt (m : Moment) : m.hour < 24 := by
  have hsecond := m.secondOfDay_lt
  rw [hour]
  omega

theorem minute_lt (m : Moment) : m.minute < 60 := Nat.mod_lt _ (by decide)

theorem second_lt (m : Moment) : m.second < 60 := Nat.mod_lt _ (by decide)

end Moment

/-! ### Reading a payload -/

namespace Payload

/-- Two digits of a number that has no more. -/
theorem padded_two {n : Nat} (h : n < 100) :
    ∃ tens ones, Numeral.padded 2 n = [tens, ones] ∧ Numeral.value [tens, ones] = n := by
  obtain ⟨tens, ones, hdigits⟩ := List.length_eq_two.mp (Numeral.length_padded h (by decide))
  refine ⟨tens, ones, hdigits, ?_⟩
  rw [← hdigits, Numeral.value_padded]

theorem decode?_write (label : List Char) (index : Nat) (moment : Moment) :
    decode? (write label index moment) =
      some ⟨label, index, moment.hour, moment.minute, moment.second⟩ := by
  obtain ⟨h1, h2, hhour, hhourValue⟩ := padded_two (moment.hour_lt.trans (by decide))
  obtain ⟨m1, m2, hminute, hminuteValue⟩ := padded_two (moment.minute_lt.trans (by decide))
  obtain ⟨s1, s2, hsecond, hsecondValue⟩ := padded_two (moment.second_lt.trans (by decide))
  have hclock : moment.clock = [h1, h2, ':', m1, m2, ':', s1, s2] := by
    rw [Moment.clock, hhour, hminute, hsecond]
    rfl
  have hindex : Numeral.write index = Nat.toDigits 10 index :=
    if_neg (Int.not_lt.mpr (Int.natCast_nonneg index))
  have hreverse : (write label index moment).reverse =
      s2 :: s1 :: ':' :: m2 :: m1 :: ':' :: h2 :: h1 :: ' ' :: '-' :: ' ' ::
        ((Nat.toDigits 10 index).reverse ++ ' ' :: label.reverse) := by
    simp [write, hclock, hindex]
  have hdigits : Numeral.Digits (Nat.toDigits 10 index).reverse :=
    fun c hc => Numeral.digits_toDigits index c (List.mem_reverse.mp hc)
  rw [decode?, hreverse]
  simp only [Numeral.span_isDigit hdigits (c := ' ') rfl, List.reverse_reverse,
    Numeral.value_toDigits, hhourValue, hminuteValue, hsecondValue]

theorem decode?_text (label : String) (index : Nat) (moment : Moment) :
    decode? (text label index moment).toList =
      some ⟨label.toList, index, moment.hour, moment.minute, moment.second⟩ := by
  rw [text, String.toList_ofList, decode?_write]

theorem text_eq_iff {label label' : String} {index index' : Nat} {moment moment' : Moment} :
    text label index moment = text label' index' moment' ↔
      label = label' ∧ index = index' ∧ moment.hour = moment'.hour ∧
        moment.minute = moment'.minute ∧ moment.second = moment'.second := by
  constructor
  · intro h
    have hparts := congrArg (fun payload => decode? payload.toList) h
    simp only [decode?_text, Option.some.injEq, Parts.mk.injEq, String.toList_inj] at hparts
    exact hparts
  · rintro ⟨rfl, rfl, hhour, hminute, hsecond⟩
    rw [text, text, write, write, Moment.clock, Moment.clock, hhour, hminute, hsecond]

end Payload

/-! ### The payloads of a run -/

namespace Run

theorem wording_eq (s : Settings) (index : Nat) (moment : Moment) :
    wording s index moment = Payload.text s.label index moment :=
  (congrArg Event.payload (make_eq s index moment)).symm

/-- The indices that are read off the writes of a run count them. -/
theorem indices_written (s : Settings) (replies : List Reply) :
    ((written s replies).map fun write => (Payload.decode? write.text.toList).map (·.index)) =
      (List.range' 1 replies.length).map some := by
  have hindex (entry : Reply × Nat) :
      (Payload.decode? (entry.1.write s entry.2).text.toList).map (·.index) = some entry.2 := by
    rw [Reply.write, wording_eq, Payload.decode?_text]
    rfl
  rw [written, List.map_map, ← List.zipIdx_map_snd, List.map_map]
  exact List.map_congr_left fun entry _ => hindex entry

theorem nodup_texts_written (s : Settings) (replies : List Reply) :
    ((written s replies).map Write.text).Nodup := by
  refine List.Nodup.of_map (fun text => (Payload.decode? text.toList).map (·.index)) ?_
  rw [List.map_map]
  have hindices : ((List.range' 1 replies.length).map some).Nodup :=
    (List.nodup_range' 1).map (Option.some_injective Nat)
  rw [← indices_written s replies] at hindices
  exact hindices

/-- **Payloads can be decoded and never collide.** One function, which does not know the label,
reads the label, the index and the time of day off every payload, so two payloads are the same only
if they agree in all of these. In every run the texts that are written differ from each other,
whatever the clock shows, whatever the clipboard answers and wherever the run is told to stop or
ended by a refused call. -/
theorem payloads_decode :
    (∀ (label : String) (index : Nat) (moment : Moment),
      Payload.decode? (Payload.text label index moment).toList =
        some ⟨label.toList, index, moment.hour, moment.minute, moment.second⟩) ∧
      (∀ (label label' : String) (index index' : Nat) (moment moment' : Moment),
        Payload.text label index moment = Payload.text label' index' moment' ↔
          label = label' ∧ index = index' ∧ moment.hour = moment'.hour ∧
            moment.minute = moment'.minute ∧ moment.second = moment'.second) ∧
      ∀ {ε : Type} (env : Surroundings) (refusal : Refusal ε) (s : Settings),
        ((writes (env.performUnder refusal s).2).map Write.text).Nodup := by
  refine ⟨Payload.decode?_text, fun _ _ _ _ _ _ => Payload.text_eq_iff, ?_⟩
  intro ε env refusal s
  obtain ⟨replies, -, hwrites⟩ :=
    env.exists_written_of_isPrefix s (env.performUnder_isPrefix refusal s)
  rw [hwrites]
  exact nodup_texts_written s replies

end Run

end ClipCadence
