import ResourceBundle.Key
import ResourceBundle.Proofs.DecimalText

/-! # Message keys tell their ids apart

A number in a message key is padded with zeros to three characters, a text stands in it as it is. Padding
makes no two numbers alike, and a number meets a text only where the text is the padded number. -/

namespace ResourceBundle

namespace MessageId

theorem spelling_number_inj {m n : Int} :
    (number m).spelling = (number n).spelling ↔ m = n := by
  constructor
  · intro h
    apply Text.paddedInt_injective 3
    exact String.ofList_injective h
  · rintro rfl
    rfl

theorem spelling_number_eq_text_iff {n : Int} {s : String} :
    (number n).spelling = (text s).spelling ↔ Text.IsPadded 3 n s.toList := by
  rw [Text.isPadded_iff]
  constructor
  · intro h
    exact (congrArg String.toList h).symm.trans String.toList_ofList
  · intro h
    apply String.toList_inj.mp
    exact String.toList_ofList.trans h.symm

end MessageId

namespace Key

theorem ofMessage_eq_ofMessage_iff {messagePrefix : String} {i j : MessageId} :
    ofMessage messagePrefix i = ofMessage messagePrefix j ↔ i.spelling = j.spelling :=
  String.append_right_inj messagePrefix

/-- Under one prefix, two numbers have the same message key only if they are equal, and two texts only if
they are equal. A number and a text have the same key exactly if the text is the decimal form of the
number, padded with zeros to three characters, the sign among them. -/
theorem ofMessage_tells_apart (messagePrefix : String) :
    (∀ m n : Int,
      ofMessage messagePrefix (.number m) = ofMessage messagePrefix (.number n) ↔ m = n) ∧
    (∀ s t : String,
      ofMessage messagePrefix (.text s) = ofMessage messagePrefix (.text t) ↔ s = t) ∧
    ∀ (n : Int) (s : String),
      ofMessage messagePrefix (.number n) = ofMessage messagePrefix (.text s) ↔
        Text.IsPadded 3 n s.toList := by
  refine ⟨fun m n => ?_, fun s t => ?_, fun n s => ?_⟩
  · rw [ofMessage_eq_ofMessage_iff, MessageId.spelling_number_inj]
  · rw [ofMessage_eq_ofMessage_iff]
    exact Iff.rfl
  · rw [ofMessage_eq_ofMessage_iff, MessageId.spelling_number_eq_text_iff]

example : ofMessage "MSG" (.number (-5)) = ofMessage "MSG" (.text "-05") := by decide

end Key

end ResourceBundle
