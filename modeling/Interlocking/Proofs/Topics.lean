/-
The topics that are taken for sensor reports.

A topic is taken apart from both ends: the base and the mark are taken off the front, the
ending is taken off the back, and what is left has to be a number. The base is any text,
so it may hold the mark, the ending, or parts of them. That makes no difference, because
each step leaves exactly what stands behind or in front of a fixed text: a topic that is
accepted is the four parts one after another, and they can be found in it in one way only.
-/
import Interlocking.Broker.Topic
import Interlocking.Proofs.Numerals

set_option autoImplicit false

namespace Interlocking.Broker

variable {cs rest beginning ending : List Char}

/-! ## Taking a text off the front or the back -/

theorem behind_eq_some_iff : behind beginning cs = some rest ↔ cs = beginning ++ rest := by
  induction beginning generalizing cs with
  | nil => simp [behind]
  | cons b beginning ih =>
    cases cs with
    | nil => simp [behind]
    | cons c cs =>
      rw [behind, List.cons_append, List.cons.injEq, eq_comm (a := c)]
      split
      next hfirst => rw [ih, and_iff_right hfirst]
      next hfirst => exact iff_of_false nofun fun h => hfirst h.1

theorem before_eq_some_iff : before ending cs = some rest ↔ cs = rest ++ ending := by
  simp only [before, Option.map_eq_some_iff, behind_eq_some_iff]
  constructor
  · rintro ⟨back, hback, rfl⟩
    rw [← List.reverse_inj, hback, List.reverse_append, List.reverse_reverse]
  · rintro rfl
    exact ⟨rest.reverse, List.reverse_append, List.reverse_reverse rest⟩

/-! ## Topics -/

variable {base topic : String} {s : SensorId} {t : SegmentId}

/-- A topic is that of a sensor's reports if a number that denotes the sensor stands
between the mark and the ending. -/
theorem sensorOfTopic?_eq_some_iff : sensorOfTopic? base topic = some s ↔
    ∃ numeral, Decimal.Denotes numeral s.number.toNat ∧
      topic.toList = base.toList ++ (reportMark ++ (numeral ++ reportEnd)) := by
  obtain ⟨number⟩ := s
  have hread : ∀ numeral, Decimal.word? (String.ofList numeral) = some number ↔
      Decimal.Denotes numeral number.toNat := by
    intro numeral
    rw [Decimal.word?_eq_some_iff, String.toList_ofList]
    rfl
  simp only [sensorOfTopic?, Option.bind_eq_bind, Option.bind_eq_some_iff, behind_eq_some_iff,
    before_eq_some_iff]
  constructor
  · rintro ⟨_, htopic, _, rfl, numeral, rfl, n, hn, hs⟩
    obtain rfl := Ident.mk.inj (Option.some.inj hs)
    exact ⟨numeral, (hread numeral).1 hn, htopic⟩
  · rintro ⟨numeral, hnumeral, htopic⟩
    exact ⟨_, htopic, _, rfl, numeral, rfl, number, (hread numeral).2 hnumeral, rfl⟩

/-- A sensor's own topic is taken for its reports. -/
theorem sensorOfTopic?_reportTopic : sensorOfTopic? base (reportTopic base s) = some s := by
  refine sensorOfTopic?_eq_some_iff.2 ⟨_, Decimal.denotes_chars s.number.toNat, ?_⟩
  rw [reportTopic, String.toList_ofList, List.append_assoc, List.append_assoc]

/-- Behind the base, the two kinds of topics differ from the second character on. -/
theorem sensorOfTopic?_stateTopic : sensorOfTopic? base (stateTopic base t) = none := by
  refine Option.eq_none_iff_forall_ne_some.2 fun s hs => ?_
  obtain ⟨numeral, -, htopic⟩ := sensorOfTopic?_eq_some_iff.1 hs
  rw [stateTopic, String.toList_ofList, List.append_assoc, List.append_assoc] at htopic
  cases List.append_cancel_left htopic

/-- **The topics of reports** are told exactly. Whatever the base is, a topic is taken for
the reports of a sensor if and only if it is the base, `/feedback/`, a decimal number of 32
bits that is the sensor's, and `/set`, one after another and with nothing else. So the topic
that is made of the base and the id of a sensor leads back to the sensor, and no topic under
which segments are announced is taken for that of a sensor. -/
theorem report_topics_are_exact (base : String) :
    (∀ topic s, sensorOfTopic? base topic = some s ↔
      ∃ numeral, Decimal.Denotes numeral s.number.toNat ∧
        topic = base ++ "/feedback/" ++ String.ofList numeral ++ "/set") ∧
    (∀ s, sensorOfTopic? base (reportTopic base s) = some s) ∧
    ∀ t, sensorOfTopic? base (stateTopic base t) = none := by
  refine ⟨fun topic s => ?_, fun s => sensorOfTopic?_reportTopic,
    fun t => sensorOfTopic?_stateTopic⟩
  rw [sensorOfTopic?_eq_some_iff]
  refine exists_congr fun numeral => and_congr_right fun _ => ?_
  rw [← String.toList_inj]
  simp only [String.toList_append, String.toList_ofList, List.append_assoc]
  rfl

end Interlocking.Broker
