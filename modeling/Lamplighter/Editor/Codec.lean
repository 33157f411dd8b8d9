import Lamplighter.Editor
import Lamplighter.Json.Codec

/-!
# Tools as JSON
-/

namespace Lamplighter

open Json

instance : Codec Tool := namesCodec Tool.all Tool.name

end Lamplighter
