import AssetRegistry.Json.Record
import AssetRegistry.Store.Row

namespace AssetRegistry.Specs

/-- The kinds of attribute values. -/
inductive Kind where
  | text
  | int32
  | double
  | flag
  deriving DecidableEq, Repr

namespace Kind

abbrev Value : Kind → Type
  | .text => String
  | .int32 => Int32
  | .double => Binary64
  | .flag => Bool

def decoder : (k : Kind) → Json.Decoder k.Value
  | .text => .text
  | .int32 => .int32
  | .double => .double
  | .flag => .flag

def reader : (k : Kind) → Store.Reader k.Value
  | .text => .text
  | .int32 => .int32
  | .double => .double
  | .flag => .flag

def toValue : (k : Kind) → k.Value → Store.Value
  | .text, s => .text s
  | .int32, n => .integer n.toInt
  | .double, d => .double d
  | .flag, b => .flag b

def toJson : (k : Kind) → k.Value → Json
  | .text, s => .text s
  | .int32, n => .whole n.toInt
  | .double, d => .double d
  | .flag, b => .flag b

end Kind

/-- A column of the table of a type, with the kind of value it holds. -/
structure Column where
  name : String
  kind : Kind
  deriving DecidableEq, Repr

/-- The columns of a type's table, without the row's own identifier. -/
def columns : AssetType → List Column
  | .laptop => [⟨"processor", .text⟩, ⟨"ram_gb", .int32⟩, ⟨"storage_gb", .int32⟩, ⟨"storage_type", .text⟩,
      ⟨"screen_size_inch", .double⟩, ⟨"has_charger", .flag⟩]
  | .mouse => [⟨"type", .text⟩, ⟨"dpi", .int32⟩, ⟨"number_of_buttons", .int32⟩]
  | .monitor => [⟨"screen_size_inch", .double⟩, ⟨"resolution", .text⟩, ⟨"refresh_rate", .int32⟩,
      ⟨"panel_type", .text⟩]
  | .mobile => [⟨"os", .text⟩, ⟨"ram_gb", .int32⟩, ⟨"storage_gb", .int32⟩, ⟨"has_dual_sim", .flag⟩]
  | .sim => [⟨"carrier", .text⟩, ⟨"phone_number", .text⟩, ⟨"data_limit_gb", .int32⟩]
  | .hardDisk => [⟨"capacity_gb", .int32⟩, ⟨"type", .text⟩]
  | .penDrive => [⟨"capacity_gb", .int32⟩, ⟨"usb_version", .text⟩]
  | .accessories => [⟨"name", .text⟩, ⟨"description", .text⟩, ⟨"compatible_with", .text⟩]

def table : AssetType → String
  | .laptop => "laptop_specs"
  | .mouse => "mouse_specs"
  | .monitor => "monitor_specs"
  | .mobile => "mobile_specs"
  | .sim => "sim_specs"
  | .hardDisk => "hard_disk_specs"
  | .penDrive => "pen_drive_specs"
  | .accessories => "accessory_specs"

def recordName : AssetType → String
  | .laptop => "LaptopSpecs"
  | .mouse => "MouseSpecs"
  | .monitor => "MonitorSpecs"
  | .mobile => "MobileSpecs"
  | .sim => "SimSpecs"
  | .hardDisk => "HardDiskSpecs"
  | .penDrive => "PenDriveSpecs"
  | .accessories => "AccessorySpecs"

end AssetRegistry.Specs
