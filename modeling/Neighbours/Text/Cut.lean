/-! Cutting texts at positions counted in octets. A character takes up to four octets, and a text can be
cut between characters only: a position inside a character, or behind the end of the text, has an outcome
of its own. -/

namespace Neighbours.Text

/-- What stands before a position, and what stands behind it. -/
def cutAt? (text : String) (position : Nat) : Option (String × String) :=
  if h : String.Pos.Raw.IsValid text ⟨position⟩ then
    let place := text.pos ⟨position⟩ h
    some ((text.sliceTo place).copy, (text.sliceFrom place).copy)
  else none

def before? (text : String) (position : Nat) : Option String :=
  (cutAt? text position).map Prod.fst

def behind? (text : String) (position : Nat) : Option String :=
  (cutAt? text position).map Prod.snd

theorem cutAt?_eq_some_iff {text front back : String} {position : Nat} :
    cutAt? text position = some (front, back) ↔
      text = front ++ back ∧ front.utf8ByteSize = position := by
  unfold cutAt?
  constructor
  · intro h
    split at h
    · next hvalid =>
      have hsplits := (text.pos ⟨position⟩ hvalid).splits
      obtain ⟨rfl, rfl⟩ := Prod.mk.inj (Option.some.inj h)
      have hoffset := hsplits.offset_eq_rawEndPos
      rw [String.offset_pos] at hoffset
      exact ⟨hsplits.eq_append, (congrArg String.Pos.Raw.byteIdx hoffset).symm⟩
    · cases h
  · rintro ⟨rfl, rfl⟩
    have hvalid : String.Pos.Raw.IsValid (front ++ back) ⟨front.utf8ByteSize⟩ :=
      String.Pos.Raw.isValid_iff_exists_append.mpr ⟨front, back, rfl, rfl⟩
    have hsplits := ((front ++ back).pos _ hvalid).splits
    obtain ⟨hfront, hback⟩ := hsplits.eq ⟨rfl, String.offset_pos⟩
    rw [dif_pos hvalid]
    exact congrArg some (Prod.ext hfront hback)

end Neighbours.Text
