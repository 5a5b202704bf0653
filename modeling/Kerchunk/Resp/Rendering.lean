import Kerchunk.Reflectd.Listings
import Kerchunk.Reflectd.StateJson

set_option autoImplicit false

/-!
# Texts in bounded buffers

The builders that add up the lengths which `snprintf` returns: responses, the reflector's state, its
days with recordings and the members of a talkgroup.
-/

namespace Kerchunk.Resp

open Config (Text)
open Reflectd (CsvSound CsvSuits Dashboard DaysSound)

inductive Rendering where
  | response (calls : List Call)
  | state (d : Dashboard)
  | days (names : List Text)
  | members (stale : Text) (vals : List Text)

namespace Rendering

/-- No append moves the cursor behind the end of the buffer, and what fits reads back as what was
given. -/
def Sound : Rendering → Prop
  | response calls => Resp.Sound calls
  | state d => d.Sound
  | days names => DaysSound names
  | members stale vals => CsvSound stale vals

/-- The lengths stay within the capacity, and what is copied unescaped needs no escape. -/
def Suits : Rendering → Prop
  | response calls => Resp.Suits calls
  | state d => Dashboard.Held 0 d ∧ (Dashboard.Held 1 d → d.Plain)
  | days names => (Reflectd.days names).length ≤ 629
  | members stale vals => CsvSuits stale vals

def longReply : List Call :=
  [.str "reply".toList (some (List.replicate 5000 'a'))]

end Rendering

end Kerchunk.Resp
