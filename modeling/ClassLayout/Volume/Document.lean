import ClassLayout.Config
import ClassLayout.Volume.Basic

namespace ClassLayout

def Volume.load (v : Volume) (path : Text) : Except Error Config :=
  match v.read path with
  | .error fault => .error (.io fault)
  | .ok content =>
      match Text.decode? content with
      | none => .error (.io .notUtf8)
      | some text =>
          match Config.parse? text with
          | none => .error .json
          | some config => .ok config

/-- Write settings to a file. What cannot be written as JSON fails before the file is touched. -/
def Config.save (c : Config) (path : Text) (v : Volume) : Except Error Unit × Volume :=
  match c.print? with
  | none => (.error .json, v)
  | some text =>
      match v.write path (Text.encode text) with
      | .error fault => (.error (.io fault), v)
      | .ok written => (.ok (), written)

end ClassLayout
