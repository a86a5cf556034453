import Sofaload.Request.Header

namespace Sofaload

def crlf : List Char := ['\r', '\n']

-- The line an entry of `shared_nva` gives the HTTP/1.1 request.
def h1Line (nv : Header) : List Char :=
  if nv.name = ":authority".toList then "Host: ".toList ++ nv.value ++ crlf
  else if nv.name.head? = some ':' then []
  else nv.name ++ ": ".toList ++ nv.value ++ crlf

-- `content_length_str`: `util::utos(config.data_length)` when a data file is given.
def contentLengthStr : Option Nat → List Char
  | some n => (Nat.repr n).toList
  | none => []

-- The request of `config.h1reqs` for the target `req`; `none` is the failed `assert`.
def h1Request (shared : List Header) (contentLength req : List Char) : Option (List Char) :=
  (shared.find? (·.name == ":method".toList)).map fun m =>
    m.value ++ ' ' :: req ++ " HTTP/1.1".toList ++ crlf ++ shared.flatMap h1Line ++
      (if contentLength.isEmpty then [] else "Content-Length: ".toList ++ contentLength ++ crlf) ++ crlf

-- The header list of `config.nva` for the target `req`.
def h2Nva (shared : List Header) (contentLength req : List Char) : List Header :=
  ⟨":path".toList, req⟩ :: shared ++
    if contentLength.isEmpty then [] else [⟨"content-length".toList, contentLength⟩]

-- The loop `while (std::getline(infile, line_uri))` of `read_uri_from_file`, character by
-- character; `cur` is the line read so far.
def readLines (cur : List Char) : List Char → List (List Char)
  | [] => if cur = [] then [] else [cur]
  | c :: rest => if c = '\n' then cur :: readLines [] rest else readLines (cur ++ [c]) rest

-- `read_uri_from_file`
def readUriFromFile (input : List Char) : List (List Char) := readLines [] input

end Sofaload
