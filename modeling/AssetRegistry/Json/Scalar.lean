import AssetRegistry.Calendar.Instant
import AssetRegistry.Json.Basic
import AssetRegistry.Vocabulary

namespace AssetRegistry

def Date.toJson (d : Date) : Json := .text d.toText

def Uuid.toJson (u : Uuid) : Json := .text u.toText

def Instant.toJson (t : Instant) : Json := .text t.toText

def Vocabulary.toJson {α : Type} [Vocabulary α] (a : α) : Json := .text (label a)

end AssetRegistry
