import Sofaload.Execution.System

namespace Sofaload

-- `get_reqline`: the path of the URI, `/` when it has none, and its query after a `?`.
def getReqline (path query : Option (List Char)) : List Char :=
  path.getD "/".toList ++ (query.map ('?' :: ·)).getD []

-- One pass of the loop of `parse_uris`. The URL parser (`http_parser_parse_url`) is not under
-- src/: `parseUrl` gives the path and query fields of a URI it accepts.
def parseUri (parseUrl : List Char → Option (Option (List Char) × Option (List Char))) (uri : List Char) :
    Except (List Char) (List Char) :=
  match parseUrl uri with
  | some (path, query) => .ok (getReqline path query)
  | none => .error ("invalid URI: ".toList ++ uri)

-- `parse_uris`. `parseBaseUri` is whether `parse_base_uri` accepts the first URI. No base URI is
-- set before this, the only call, so the first URI is always parsed as the base.
def parseUris (parseUrl : List Char → Option (Option (List Char) × Option (List Char)))
    (parseBaseUri : List Char → Bool) : List (List Char) → Except (List Char) (List (List Char))
  | [] => .error "no URI available".toList
  | first :: rest =>
    if !parseBaseUri first then .error ("invalid URI: ".toList ++ first)
    else (first :: rest).mapM (parseUri parseUrl)

namespace Config

-- The checks of `main` after the option loop, in order; the first that fails is printed and the
-- process exits. `uriGiven` is false when neither a URI nor an input file was given; `reqlines`
-- is what `parse_uris` returned, or the message it exited with. The warning about more threads
-- than cores does not exit, and opening the data file is left out.
def checkOptions (cfg : Config) (uriGiven : Bool) (reqlines : Except (List Char) (List (List Char))) :
    Except (List Char) (List (List Char)) :=
  if !uriGiven then .error "no URI or input file given".toList
  else if cfg.nclients = 0 then .error "-c: the number of clients must be strictly greater than 0.".toList
  else match reqlines with
  | .error e => .error e
  | .ok reqlines =>
    if reqlines.isEmpty then .error "No URI given".toList
    else if cfg.isQpsMode && cfg.isRateMode then .error "-r, --qps: they are mutually exclusive.".toList
    else if cfg.isQpsMode && cfg.duration == 0 then
      .error "duration(-D) must be positive in --qps mode".toList
    else if cfg.isTimingBasedMode && cfg.isRateMode then .error "-r, -D: they are mutually exclusive.".toList
    else if cfg.nreqs == 0 && !cfg.isTimingBasedMode then
      .error ("-n: the number of requests must be strictly greater than 0 " ++
        "if timing-based test is not being run.").toList
    else if cfg.maxConcurrentStreams = 0 then
      .error "-m: the max concurrent streams must be strictly greater than 0.".toList
    else if cfg.nthreads = 0 then .error "-t: the number of threads must be strictly greater than 0.".toList
    else if cfg.nclients < cfg.nthreads && !cfg.isQpsMode then
      .error "-c, -t: the number of clients must be greater than or equal to the number of threads.".toList
    else
      let nreqs := if cfg.isTimingBasedMode then 0 else cfg.nreqs
      if cfg.isRateMode && cfg.rate < cfg.nthreads then
        .error "-r, -t: the connection rate must be greater than or equal to the number of threads.".toList
      else if cfg.isRateMode && cfg.rate > cfg.nclients then
        .error "-r, -c: the connection rate must be smaller than or equal to the number of clients.".toList
      else if nreqs == 0 && !cfg.isTimingBasedMode then .error "-n, -D: Must have one".toList
      else .ok reqlines

end Config

end Sofaload
