/-! Texts stored as bytes. -/
namespace Acceptor.Text

abbrev Bytes := List UInt8

def ofUtf8? (bytes : Bytes) : Option String := String.fromUTF8? ⟨bytes.toArray⟩

theorem ofUtf8?_toByteArray (s : String) : ofUtf8? s.toByteArray.data.toList = some s := by
  rw [ofUtf8?, Array.toArray_toList, String.fromUTF8?, dif_pos s.isValidUTF8]
  rfl

/-- Lines end behind a line feed, which they keep; the last one may lack it. -/
def lines : Bytes → List Bytes
  | [] => []
  | b :: rest =>
    if b = 10 then [b] :: lines rest
    else match lines rest with
      | [] => [[b]]
      | line :: more => (b :: line) :: more

end Acceptor.Text
