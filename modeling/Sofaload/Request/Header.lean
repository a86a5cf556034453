import Sofaload.Objects.Config

namespace Sofaload

-- `Header`: a name and a value.
structure Header where
  name : List Char
  value : List Char
  deriving DecidableEq, Repr

-- `isspace` in the C locale.
def isSpace (c : Char) : Bool :=
  c == ' ' || c == '\t' || c == '\n' || c == '\x0b' || c == '\x0c' || c == '\r'

-- `util::inp_strlower`
def strLower (s : List Char) : List Char := s.map Char.toLower

-- The `-H` case of the option loop of `main`; an empty argument, for which `optarg + 1` is past
-- its end, is rejected.
def parseHeader : List Char → Except (List Char) Header
  | [] => .error ("-H: invalid header: ".toList)
  | c :: rest =>
    match rest.dropWhile (· != ':') with
    | [] => .error ("-H: invalid header: ".toList ++ c :: rest)
    | _ :: v =>
      if c = ':' ∧ rest.takeWhile (· != ':') = [] then .error ("-H: invalid header: ".toList ++ c :: rest)
      else if v.dropWhile isSpace = [] then
        .error ("-H: invalid header - value missing: ".toList ++ c :: rest.takeWhile (· != ':'))
      else .ok ⟨strLower (c :: rest.takeWhile (· != ':')), v.dropWhile isSpace⟩

-- The entries of `shared_nva` before the custom headers.
def baseNva (scheme host : List Char) (port defaultPort : Nat) (post : Bool) (userAgent : List Char) :
    List Header :=
  [⟨":scheme".toList, scheme⟩,
   ⟨":authority".toList, if port ≠ defaultPort then host ++ ':' :: (Nat.repr port).toList else host⟩,
   ⟨":method".toList, if post then "POST".toList else "GET".toList⟩,
   ⟨"user-agent".toList, userAgent⟩]

-- `override_hdrs`
def overrideHdrs : List (List Char) :=
  [":authority".toList, ":host".toList, ":method".toList, ":scheme".toList, "user-agent".toList]

-- Whether the custom header named `kv` overrides the entry named `nv`.
def overrides (kv nv : List Char) : Bool :=
  nv == ":authority".toList && kv == ":host".toList || nv == kv

-- One round of the loop over `config.custom_headers`.
def addCustom (nva : List Header) (kv : Header) : List Header :=
  if kv.name ∈ overrideHdrs then nva.map fun nv => if overrides kv.name nv.name then { nv with value := kv.value } else nv
  else nva ++ [kv]

-- `shared_nva` once the custom headers are in.
def sharedNva (base : List Header) (custom : List Header) : List Header := custom.foldl addCustom base

end Sofaload
