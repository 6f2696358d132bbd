/-
A medium in memory. It never fails and starts out erased.
-/
import FlightStore.Storage.Basic

namespace FlightStore

/-- an image in memory -/
structure Memory where
  image : Image := .erased

instance : Storage Memory Empty where
  read m := (.ok m.image, m)
  write i _ := (.ok (), ⟨i⟩)

end FlightStore
