import ApplianceCloud.Capability.Basic
import ApplianceCloud.Capability.Detection

namespace ApplianceCloud.Laundry

structure NodeNames where
  readings : String
  options : String
  feature : LaundryFeature → String
  doorLock : String
  childLock : String
  turboWash : String
  remoteStart : String
  standby : String
  commands : LaundryCommandNames
  notSelected : String

def nodeNames : Generation → NodeNames
  | .first => {
      readings := Detection.readingsKey .first
      options := "option"
      feature
        | .state => "State"
        | .processState => "ProcessState"
        | .preState => "PreState"
        | .rinse => "RinseOption"
        | .temperature => "WaterTemp"
        | .spin => "SpinSpeed"
        | .dryLevel => "DryLevel"
        | .soilWash => "Wash"
        | .error => "Error"
      doorLock := "DoorLock"
      childLock := "ChildLock"
      turboWash := "TurboWash"
      remoteStart := "RemoteStart"
      standby := "Standby"
      commands :=
        { remoteStart := "OperationStart", stop := "OperationStop", wakeUp := "OperationWakeUp" }
      notSelected := "0" }
  | .second => {
      readings := Detection.readingsKey .second
      options := "valueMapping"
      feature
        | .state => "state"
        | .processState => "processState"
        | .preState => "preState"
        | .rinse => "rinse"
        | .temperature => "temp"
        | .spin => "spin"
        | .dryLevel => "dryLevel"
        | .soilWash => "soilWash"
        | .error => "error"
      doorLock := "doorLock"
      childLock := "childLock"
      turboWash := "turboWash"
      remoteStart := "remoteStart"
      standby := "standby"
      commands := { remoteStart := "WMStart", stop := "WMStop", wakeUp := "WMWakeup" }
      notSelected := "NOT_SELECTED" }

/-- Keys that a command's declared data do not keep: the course is set anew for every start, and
locks are never sent. -/
def escapedKeys : List String := ["course", "SmartCourse", "doorLock", "childLock"]

structure CourseNodes where
  fields : CourseFieldNames
  defaultCourse : String
  courses : String
  smartCourses : String
  deriving DecidableEq, Repr

def referredNode (readings : Fields Document) (field : String) (kind : CourseKind) : String :=
  let reference := ((readings.orNull field).member? "ref").getD .null
  if reference.isTruthy then reference.display else kind.name

def listedNode (readings : Fields Document) (field : String) (kind : CourseKind) : String :=
  match (readings.orNull field).member? "option" with
  | some (.list (first :: _)) => first.display
  | _ => kind.name

def courseNodes (generation : Generation) (document readings : Fields Document) : CourseNodes :=
  match generation with
  | .first =>
      let course := if readings.has "APCourse" then "APCourse" else "Course"
      { fields := { course, smartCourse := "SmartCourse", downloadedCourse := "" }
        defaultCourse := ""
        courses := listedNode readings course .course
        smartCourses := listedNode readings "SmartCourse" .smartCourse }
  | .second =>
      let config := (document.orNull "Config").object?.getD []
      let nameIn (key : String) := ((config.orNull key).orElse (.text "")).display
      let course := nameIn "courseType"
      let smartCourse := nameIn "smartCourseType"
      { fields := { course, smartCourse, downloadedCourse := nameIn "downloadedCourseType" }
        defaultCourse := nameIn "defaultCourse"
        courses := referredNode readings course .course
        smartCourses := referredNode readings smartCourse .smartCourse }

def featuresOf (names : NodeNames) (document readings : Fields Document) :
    List (LaundryFeature × Feature) :=
  LaundryFeature.all.filterMap fun feature =>
    let declaredIn (node : Fields Document) :=
      Feature.ofNode? node (names.feature feature) names.options feature.isReadOnly
    let declared := match feature, declaredIn readings with
      | .error, none => declaredIn document
      | _, found => found
    declared.map (feature, ·)

def commandsOf (generation : Generation) (fields : CourseFieldNames) (control : Document) :
    Fields Command :=
  match generation with
  | .first => Command.ofFirstControl control
  | .second =>
      Command.ofSecondControl escapedKeys [fields.course, fields.smartCourse, "courseType"] control

def ofDocument (document : Fields Document) (family : Family) (generation : Generation) :
    Except Failure Laundry :=
  let names := nodeNames generation
  match (document.orNull names.readings).object? with
  | none => .error (.capability (.nodeMissing names.readings))
  | some readings => do
      let nodes := courseNodes generation document readings
      if !(document.orNull nodes.courses).isObject then
        .error (.capability (.nodeMissing nodes.courses))
      else
        let courses ← Course.ofNode .course names.notSelected (document.orNull nodes.courses)
        let smartCourses ←
          Course.ofNode .smartCourse names.notSelected (document.orNull nodes.smartCourses)
        let reporting ← Reporting.ofDocument generation document
        return {
          header := { family, generation, reporting }
          courses
          smartCourses
          features := featuresOf names document readings
          equipment := {
            doorLock := readings.has names.doorLock
            turboWash := readings.has names.turboWash
            childLock := readings.has names.childLock
            remoteStart := readings.has names.remoteStart
            standby := readings.has names.standby }
          commands := commandsOf generation nodes.fields (document.orNull "ControlWifi")
          courseFields := nodes.fields
          defaultCourse := nodes.defaultCourse
          commandNames := names.commands
          notSelected := names.notSelected }

end ApplianceCloud.Laundry
