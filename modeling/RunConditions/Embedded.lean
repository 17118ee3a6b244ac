/-!
# Embedded resources

The texts that are always there: the configuration of the tables that ship,
the settings of the development database, and one detector description. They
are found by name with or without slashes in front.
-/

set_option autoImplicit false

namespace RunConditions.Embedded

def configurationName : String := "/config/conditions_database.xml"

def propertiesName : String := "/config/conditions_dev.properties"

def configuration : String := r#"<?xml version="1.0" encoding="UTF-8"?>
<conditions>

    <tables>

        <table name="conditions" key="id">
            <classes>
                <object class="ConditionsRecord"/>
                <collection class="ConditionsRecordCollection"/>
            </classes>
            <fields>
                <field name="run_start"/>
                <field name="run_end"/>
                <field name="name"/>
                <field name="table_name"/>
                <field name="collection_id"/>
                <field name="tag"/>
                <field name="created_by"/>
                <field name="notes"/>
            </fields>
        </table>

        <table name="ecal_gains" key="id">
            <classes>
                <object class="EcalGain"/>
                <collection class="EcalGainCollection"/>
            </classes>
            <fields>
                <field name="ecal_channel_id"/>
                <field name="gain"/>
            </fields>
        </table>

        <table name="ecal_calibrations" key="id">
            <classes>
                <object class="EcalCalibration"/>
                <collection class="EcalCalibrationCollection"/>
            </classes>
            <fields>
                <field name="ecal_channel_id"/>
                <field name="pedestal"/>
                <field name="noise"/>
            </fields>
        </table>

        <table name="ecal_bad_channels" key="id">
            <classes>
                <object class="EcalBadChannel"/>
                <collection class="EcalBadChannelCollection"/>
            </classes>
            <fields>
                <field name="ecal_channel_id"/>
            </fields>
        </table>

    </tables>

    <converters>
        <converter class="ConditionsRecordConverter"/>
        <converter class="EcalGainConverter"/>
        <converter class="EcalCalibrationConverter"/>
        <converter class="EcalBadChannelConverter"/>
    </converters>

</conditions>
"#

def properties : String :=
  String.join [
    "# Development conditions database.  Override with -p for production.\n",
    "user=hpsuser\n",
    "password=darkphoton\n",
    "database=hps_conditions_dev\n",
    "hostname=localhost\n",
    "port=5432\n",
    "driver=postgresql\n"]

def detector : String := r#"<?xml version="1.0" encoding="UTF-8"?>
<lccdd xmlns:compact="http://www.lcsim.org/schemas/compact/1.0"
       xmlns:xs="http://www.w3.org/2001/XMLSchema-instance"
       xs:noNamespaceSchemaLocation="http://www.lcsim.org/schemas/compact/1.0/compact.xsd">
    <info name="HPS-TestRun-v5">
        <comment>HPS test run detector with the ECal and SVT.</comment>
    </info>
    <define>
        <constant name="world_side" value="5000.0*cm"/>
        <constant name="beam_angle" value="0.03052"/>
        <constant name="ecal_front" value="147.0*cm"/>
    </define>
    <detectors>
        <detector id="13" name="Ecal" type="HPSEcal3" readout="EcalHits">
            <comment>The crystal ECal</comment>
            <material name="LeadTungstate"/>
            <dimensions x1="13.3" x2="16" y1="13.3" y2="16" z="160"/>
            <layout beamgap="37.0" nx="46" ny="5" dface="ecal_front"/>
        </detector>
    </detectors>
</lccdd>
"#

def resources : List (String × String) :=
  [(configurationName, configuration), (propertiesName, properties),
   ("/detectors/HPS-TestRun-v5/compact.xml", detector)]

def names : List String :=
  resources.map Prod.fst

def dropSlashes (name : String) : List Char :=
  name.toList.dropWhile (· == '/')

/-- The resource with this name, slashes in front left aside. -/
def find? (name : String) : Option String :=
  (resources.find? fun r => dropSlashes r.1 == dropSlashes name).map Prod.snd

end RunConditions.Embedded
