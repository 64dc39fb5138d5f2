/-!
# Identification of clients

Clients tell servers which variant of the library they are, in which version, and which version
of the protocol they speak.
-/

set_option autoImplicit false

namespace FeatureFlags.Edge

/-- The version of the library. -/
def libraryVersion : String := "0.1.0"

/-- The version of the protocol. -/
def protocolVersion : String := "1.1.2"

/-- The identification of a variant. -/
def identification (variant : String) : String :=
  variant ++ "," ++ libraryVersion ++ "," ++ protocolVersion

end FeatureFlags.Edge
