import Placement.Graph.Payload
import Placement.Proofs.Digit
import Placement.Proofs.Words

/-!
# Placement.Proofs.Graph.Wording — what a refused payload is told

The wording of a fault names its subject, the payload or one of its elements, and says
something of it. An element's number ends at the blank behind it (`element_text_inj`),
and of two faults with one subject a single character tells the wordings apart (`mark`).
So no two faults have the same wording (`message_injective`).
-/

namespace Placement.Graph

variable {element : Element} {index : Nat} {fault : PayloadFault}

/-! ## Subjects -/

/-- The element that a fault is about, if it is about one. -/
def PayloadFault.subject? : PayloadFault → Option (Element × Nat)
  | .elementNotARecord element index | .missingField element index _ => some (element, index)
  | .badTags index => some (.edge, index)
  | _ => none

/-- What is said of an element behind its number. -/
def PayloadFault.said : PayloadFault → Text
  | .elementNotARecord _ _ => " must be an object".text
  | .missingField _ _ field => " is missing string field '".text ++ (field ++ "'".text)
  | .badTags _ => " has invalid 'semanticTags' (expected a list of strings)".text
  | _ => []

/-- The character by which the wording of a fault differs from the others about the same
subject. -/
def PayloadFault.mark : PayloadFault → CodePoint
  | .notARecord _ => 'b'
  | .noNodes => ' '
  | .noEdges => 'n'
  | .elementNotARecord _ _ => 'm'
  | .missingField _ _ _ => 'i'
  | .badTags _ => 'h'

/-- The wording of a fault about an element is its name and number, and what is said of it. -/
theorem message_of_subject (h : fault.subject? = some (element, index)) :
    fault.message = element.text index ++ fault.said := by
  cases fault with
  | elementNotARecord => cases h; rfl
  | badTags => cases h; rfl
  | missingField _ _ field =>
    cases h
    show element.text index ++ " is missing string field '".text ++ field ++ "'".text = _
    rw [List.append_assoc, List.append_assoc]
    rfl
  | _ => cases h

/-- A blank stands behind the number of an element, and then the mark of the fault. -/
theorem getElem?_said (h : fault.subject? = some (element, index)) :
    fault.said[0]? = some (.char ' ') ∧ fault.said[1]? = some fault.mark := by
  -- the first letter of the verb tells the faults of an element apart
  cases fault with
  | elementNotARecord =>
    show " must be an object".text[0]? = some (.char ' ') ∧
      " must be an object".text[1]? = some (.char 'm')
    simp
  | badTags =>
    show " has invalid 'semanticTags' (expected a list of strings)".text[0]? = some (.char ' ') ∧
      " has invalid 'semanticTags' (expected a list of strings)".text[1]? = some (.char 'h')
    simp
  | missingField _ _ field =>
    show (" is missing string field '".text ++ (field ++ "'".text))[0]? = some (.char ' ') ∧
      (" is missing string field '".text ++ (field ++ "'".text))[1]? = some (.char 'i')
    simp
  | _ => cases h

/-- Two faults about one element are the same when the same is said of it. -/
theorem eq_of_said {other : PayloadFault} (h : fault.subject? = some (element, index))
    (hother : other.subject? = some (element, index)) (hsaid : fault.said = other.said) :
    fault = other := by
  have hmark : some fault.mark = some other.mark := by
    rw [← (getElem?_said h).2, ← (getElem?_said hother).2, hsaid]
  cases fault with
  | missingField _ _ field =>
    cases other with
    | missingField _ _ field' =>
      have hfield : " is missing string field '".text ++ (field ++ "'".text) =
          " is missing string field '".text ++ (field' ++ "'".text) := hsaid
      -- the name of the field stands between fixed words, and is left when they are taken off
      rw [List.append_cancel_left_eq, List.append_cancel_right_eq] at hfield
      cases h
      cases hother
      rw [hfield]
    | _ => exact absurd (Option.some.inj hmark) (by simp [PayloadFault.mark])
  | elementNotARecord =>
    cases other with
    | elementNotARecord => cases h; cases hother; rfl
    | _ => exact absurd (Option.some.inj hmark) (by simp [PayloadFault.mark])
  | badTags =>
    cases other with
    | badTags => cases h; cases hother; rfl
    | _ => exact absurd (Option.some.inj hmark) (by simp [PayloadFault.mark])
  | _ => cases h

/-! ## Wordings -/

theorem getElem?_element_text (r : Text) : (element.text index ++ r)[0]? = element.name[0]? := by
  cases element <;> rfl

/-- A fault about the payload has its mark in the fifth word of its wording. -/
theorem getElem?_message (h : fault.subject? = none) :
    fault.message[0]? = some (.char 'g') ∧ fault.message[26]? = some fault.mark := by
  -- the three messages about the whole graph have three different letters at place 26
  cases fault with
  | notARecord kindName =>
    show ("graph payload must be an object, got ".text ++ kindName)[0]? = some (.char 'g') ∧
      ("graph payload must be an object, got ".text ++ kindName)[26]? = some (.char 'b')
    simp
  | noNodes =>
    show "graph payload is missing a 'nodes' list".text[0]? = some (.char 'g') ∧
      "graph payload is missing a 'nodes' list".text[26]? = some (.char ' ')
    simp
  | noEdges =>
    show "graph payload is missing an 'edges' list".text[0]? = some (.char 'g') ∧
      "graph payload is missing an 'edges' list".text[26]? = some (.char 'n')
    simp
  | _ => cases h

/-- The number of an element ends at the blank behind it. -/
theorem element_text_inj {other : Element} {number : Nat} {r s : Text}
    (hr : r[0]? = some (.char ' ')) (hs : s[0]? = some (.char ' '))
    (h : element.text index ++ r = other.text number ++ s) :
    element = other ∧ index = number ∧ r = s := by
  rw [← List.head?_eq_getElem?, List.head?_eq_some_iff] at hr hs
  rcases hr with ⟨r, rfl⟩
  rcases hs with ⟨s, rfl⟩
  -- a number is written in digits, so the first blank behind the name ends it
  have hblank : ∀ n, .char ' ' ∉ Text.ofNat n := by
    intro n hmem
    exact absurd (Text.isAsciiDigit_of_mem_ofNat hmem) (by decide)
  have hhead := congrArg (·[0]?) h
  rw [getElem?_element_text, getElem?_element_text] at hhead
  have hsame : element = other := by
    cases element <;> cases other <;> first | rfl | exact absurd hhead (by decide)
  subst hsame
  simp only [Element.text, List.append_assoc, List.append_cancel_left_eq] at h
  have hspan := congrArg (List.span (· != .char ' ')) h
  rw [Text.span_ne_append (hblank index), Text.span_ne_append (hblank number),
    Prod.mk.injEq] at hspan
  have hread := congrArg Text.readDigits? hspan.1
  rw [Text.readDigits?_ofNat, Text.readDigits?_ofNat] at hread
  exact ⟨rfl, Option.some.inj hread, hspan.2⟩

/-- A fault about an element has another wording than one about the payload. -/
theorem message_ne_of_subject {other : PayloadFault} (h : fault.subject? = some (element, index))
    (hother : other.subject? = none) : fault.message ≠ other.message := by
  intro hsame
  have hhead := congrArg (·[0]?) hsame
  rw [message_of_subject h, getElem?_element_text, (getElem?_message hother).1] at hhead
  cases element <;> exact absurd hhead (by decide)

/-! ## One fault a wording -/

/-- Two faults about the payload are the same when their wordings are. -/
theorem eq_of_message {other : PayloadFault} (h : fault.subject? = none)
    (hother : other.subject? = none) (hsame : fault.message = other.message) : fault = other := by
  -- equal messages have equal marks, so only the faults of one constructor are left
  have hmark : some fault.mark = some other.mark := by
    rw [← (getElem?_message h).2, ← (getElem?_message hother).2, hsame]
  cases fault with
  | notARecord kindName =>
    cases other with
    | notARecord kindName' =>
      have hkind : "graph payload must be an object, got ".text ++ kindName =
          "graph payload must be an object, got ".text ++ kindName' := hsame
      rw [List.append_cancel_left_eq] at hkind
      rw [hkind]
    | _ => exact absurd (Option.some.inj hmark) (by simp [PayloadFault.mark])
  | noNodes =>
    cases other with
    | noNodes => rfl
    | _ => exact absurd (Option.some.inj hmark) (by simp [PayloadFault.mark])
  | noEdges =>
    cases other with
    | noEdges => rfl
    | _ => exact absurd (Option.some.inj hmark) (by simp [PayloadFault.mark])
  | _ => cases h

/-- No two faults have the same wording. -/
theorem message_injective : Function.Injective PayloadFault.message := by
  intro f g h
  -- both are about the payload or both about an element, by the first letter of their wordings
  cases hf : f.subject? with
  | none =>
    cases hg : g.subject? with
    | none => exact eq_of_message hf hg h
    | some q => exact absurd h.symm (message_ne_of_subject hg hf)
  | some p =>
    cases hg : g.subject? with
    | none => exact absurd h (message_ne_of_subject hf hg)
    | some q =>
      rw [message_of_subject hf, message_of_subject hg] at h
      rcases element_text_inj (getElem?_said hf).1 (getElem?_said hg).1 h with
        ⟨helement, hindex, hsaid⟩
      have hsubject : p = q := Prod.ext helement hindex
      rw [← hsubject] at hg
      exact eq_of_said hf hg hsaid

end Placement.Graph
