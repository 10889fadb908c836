import Birl.Program

/-!
# Laws of programs

What adding a segment or instructions does to the segments, and the order of
programs that comes from it: a program that `Extends` another has all of its code
where it was, with more after it.
-/

namespace Birl

def Segment.operations (s : Segment) : List Operation := s.code.toList.map Instruction.op

theorem Segment.operations_getElem? (s : Segment) {i : Nat} {op : Operation} :
    s.operations[i]? = some op ↔ ∃ instruction, s.code[i]? = some instruction ∧ instruction.op = op := by
  simp [operations]

theorem Segment.length_operations (s : Segment) : s.operations.length = s.code.size := by
  simp [operations]

@[simp] theorem Segment.operations_append (s : Segment) (more : List Instruction) :
    ({ s with code := s.code ++ more } : Segment).operations =
      s.operations ++ more.map Instruction.op := by
  simp [operations]

namespace Program

theorem segment?_append (p : Program) (id : Nat) (code : List Instruction) (i : Nat) :
    (p.append id code).segment? i =
      (p.segment? i).map fun s => if i = id then { s with code := s.code ++ code } else s := by
  simp only [segment?, append, Array.getElem?_modify]
  by_cases h : id = i
  · simp [h]
  · simp [h, Ne.symm h]

theorem segment?_addSegment (p : Program) (name : Text) (i : Nat) :
    (p.addSegment name).2.segment? i = if i = p.segments.size then some { name } else p.segment? i := by
  simp only [segment?, addSegment, Array.getElem?_push]

theorem segment?_lt {p : Program} {i : Nat} {s : Segment} (h : p.segment? i = some s) :
    i < p.segments.size :=
  (Array.getElem?_eq_some_iff.mp h).1

theorem hasCode_iff (p : Program) (id : Nat) :
    p.hasCode id = true ↔ ∃ s, p.segment? id = some s := by
  simp only [hasCode, segment?, Array.getElem?_eq_some_iff]
  constructor
  · intro h
    have hlt : id < p.segments.size := by simpa using h
    exact ⟨_, hlt, rfl⟩
  · rintro ⟨_, hlt, -⟩
    simpa using hlt

theorem operations_empty {id : Nat} {s : Segment} (h : empty.segment? id = some s) :
    s.operations = [] := by
  match id, h with
  | 0, h => cases h; rfl
  | 1, h => cases h; rfl
  | _ + 2, h => simp [segment?, empty] at h

-- ---------------------------------------------------------------------------
-- Places
-- ---------------------------------------------------------------------------

def operation? (p : Program) (id pos : Nat) : Option Operation :=
  (p.segment? id).bind fun s => s.operations[pos]?

def codeLength (p : Program) (id : Nat) : Nat := (p.segment? id).elim 0 fun s => s.code.size

theorem operation?_lt {p : Program} {id pos : Nat} {op : Operation}
    (h : p.operation? id pos = some op) : pos < p.codeLength id := by
  obtain ⟨s, hs, hop⟩ := Option.bind_eq_some_iff.mp h
  have hlt := (List.getElem?_eq_some_iff.mp hop).1
  rw [s.length_operations] at hlt
  simpa [codeLength, hs] using hlt

theorem operation?_append {p : Program} {target id pos : Nat} {code : List Instruction}
    {op : Operation} (h : (p.append target code).operation? id pos = some op) :
    p.operation? id pos = some op ∨
      id = target ∧ ∃ i, (code.map Instruction.op)[i]? = some op ∧
        pos = p.codeLength id + i ∧
        (p.append target code).codeLength id = p.codeLength id + code.length := by
  obtain ⟨s', hs', hop⟩ := Option.bind_eq_some_iff.mp h
  rw [segment?_append] at hs'
  obtain ⟨s, hs, rfl⟩ := Option.map_eq_some_iff.mp hs'
  by_cases hid : id = target
  · rw [if_pos hid, Segment.operations_append, List.getElem?_append, s.length_operations] at hop
    split at hop
    · exact .inl (by simp [operation?, hs, hop])
    · rename_i hge
      refine .inr ⟨hid, pos - s.code.size, hop, ?_, ?_⟩
      · simp only [codeLength, hs, Option.elim_some]
        omega
      · subst hid
        simp [codeLength, segment?_append, hs, ← Array.length_toList]
  · rw [if_neg hid] at hop
    exact .inl (by simp [operation?, hs, hop])

-- ---------------------------------------------------------------------------
-- Programs that grew
-- ---------------------------------------------------------------------------

/-- Every segment of `p` is the start of the segment of `p'` with its id. -/
def Extends (p p' : Program) : Prop :=
  ∀ id segment, p.segment? id = some segment →
    ∃ more : List Instruction, p'.segment? id = some { segment with code := segment.code ++ more }

theorem Extends.refl (p : Program) : p.Extends p := fun _ segment h => ⟨[], by simpa using h⟩

theorem Extends.trans {p p' p'' : Program} (h : p.Extends p') (h' : p'.Extends p'') :
    p.Extends p'' := by
  intro id segment hs
  obtain ⟨more, hs'⟩ := h id segment hs
  obtain ⟨more', hs''⟩ := h' id _ hs'
  have hassoc : segment.code ++ more ++ more' = segment.code ++ (more ++ more') := by
    apply Array.ext'
    simp
  exact ⟨more ++ more', by rw [hs'', hassoc]⟩

theorem extends_append (p : Program) (id : Nat) (code : List Instruction) :
    p.Extends (p.append id code) := by
  intro i segment hs
  rw [segment?_append, hs]
  by_cases h : i = id
  · exact ⟨code, by simp [h]⟩
  · exact ⟨[], by simp [h]⟩

theorem extends_addSegment (p : Program) (name : Text) : p.Extends (p.addSegment name).2 := by
  intro i segment hs
  have hne : i ≠ p.segments.size := Nat.ne_of_lt (segment?_lt hs)
  exact ⟨[], by simpa [segment?_addSegment, hne] using hs⟩

-- ---------------------------------------------------------------------------
-- The global code
-- ---------------------------------------------------------------------------

def globalOperations (p : Program) : List Operation :=
  (p.segment? globalCode).elim [] Segment.operations

theorem length_globalOperations (p : Program) : p.globalOperations.length = p.globalLength := by
  unfold globalOperations globalLength
  cases p.segment? globalCode with
  | none => rfl
  | some s => exact s.length_operations

theorem Extends.globalOperations {p p' : Program} (h : p.Extends p') :
    ∃ more, p'.globalOperations = p.globalOperations ++ more := by
  cases hs : p.segment? globalCode with
  | none => exact ⟨_, by simp [Program.globalOperations, hs]; rfl⟩
  | some s =>
    obtain ⟨more, hs'⟩ := h globalCode s hs
    exact ⟨more.map Instruction.op, by simp [Program.globalOperations, hs, hs']⟩

theorem Extends.globalLength_le {p p' : Program} (h : p.Extends p') :
    p.globalLength ≤ p'.globalLength := by
  obtain ⟨more, hmore⟩ := h.globalOperations
  rw [← length_globalOperations, ← length_globalOperations, hmore, List.length_append]
  omega

end Program
end Birl
