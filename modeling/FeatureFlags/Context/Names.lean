import FeatureFlags.Feature.Wire

/-!
# Kinds of devices and platforms

The names of the devices and platforms that servers know.
-/

set_option autoImplicit false

namespace FeatureFlags

open Json

/-- A kind of device. -/
inductive Device where
  /-- A web browser. -/
  | browser
  /-- A mobile phone or tablet. -/
  | mobile
  /-- A desktop computer. -/
  | desktop
  /-- A server. -/
  | server
  /-- A watch. -/
  | watch
  /-- A computer inside another device. -/
  | embedded
deriving DecidableEq, Repr

/-- The names of the kinds of devices. -/
def Device.names : List (String × Device) :=
  [("browser", .browser), ("mobile", .mobile), ("desktop", .desktop), ("server", .server),
    ("watch", .watch), ("embedded", .embedded)]

/-- The name of a kind of device. -/
def Device.name (d : Device) : String := nameOf Device.names d

/-- Reads a kind of device. -/
def Device.decode : Decoder Device := .oneOf Device.names

/-- An operating system. -/
inductive Platform where
  /-- A system with a Linux kernel. -/
  | linux
  /-- Windows. -/
  | windows
  /-- The system of desktop computers by the maker of `ios`. -/
  | macos
  /-- Android. -/
  | android
  /-- The system of mobile phones by the maker of `macos`. -/
  | ios
deriving DecidableEq, Repr

/-- The names of the operating systems. -/
def Platform.names : List (String × Platform) :=
  [("linux", .linux), ("windows", .windows), ("macos", .macos), ("android", .android),
    ("ios", .ios)]

/-- The name of an operating system. -/
def Platform.name (p : Platform) : String := nameOf Platform.names p

/-- Reads an operating system. -/
def Platform.decode : Decoder Platform := .oneOf Platform.names

end FeatureFlags
