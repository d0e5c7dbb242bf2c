import Rehearsal.Files.Tree
import Rehearsal.Resource

/-!
# Bundled fixture files

The files that come with the library, and the folder in which they appear.
-/

namespace Rehearsal

open Text

/-- A process with one asynchronous task before one for people, so that its instances wait
where a diagram shows them. -/
def suspensionProcess : List String :=
  [
    "<?xml version=\"1.0\" encoding=\"UTF-8\"?>",
    "<bpmn:definitions xmlns:bpmn=\"http://www.omg.org/spec/BPMN/20100524/MODEL\"",
    "                  xmlns:bpmndi=\"http://www.omg.org/spec/BPMN/20100524/DI\"",
    "                  xmlns:dc=\"http://www.omg.org/spec/DD/20100524/DC\"",
    "                  xmlns:di=\"http://www.omg.org/spec/DD/20100524/DI\"",
    "                  xmlns:operaton=\"http://operaton.org/schema/1.0/bpmn\"",
    "                  id=\"Definitions_suspension\"",
    "                  targetNamespace=\"http://bpmn.io/schema/bpmn\">",
    "  <bpmn:process id=\"suspension-process\" name=\"Suspension Process\" isExecutable=\"true\">",
    "    <bpmn:startEvent id=\"StartEvent_1\">",
    "      <bpmn:outgoing>SequenceFlow_1</bpmn:outgoing>",
    "    </bpmn:startEvent>",
    "    <bpmn:sequenceFlow id=\"SequenceFlow_1\" sourceRef=\"StartEvent_1\" targetRef=\"ServiceTask_1\" />",
    "    <bpmn:serviceTask id=\"ServiceTask_1\" name=\"Async Service\" operaton:asyncBefore=\"true\" operaton:expression=\"$\x7btrue\x7d\">",
    "      <bpmn:incoming>SequenceFlow_1</bpmn:incoming>",
    "      <bpmn:outgoing>SequenceFlow_2</bpmn:outgoing>",
    "    </bpmn:serviceTask>",
    "    <bpmn:sequenceFlow id=\"SequenceFlow_2\" sourceRef=\"ServiceTask_1\" targetRef=\"UserTask_1\" />",
    "    <bpmn:userTask id=\"UserTask_1\" name=\"Review\">",
    "      <bpmn:incoming>SequenceFlow_2</bpmn:incoming>",
    "      <bpmn:outgoing>SequenceFlow_3</bpmn:outgoing>",
    "    </bpmn:userTask>",
    "    <bpmn:sequenceFlow id=\"SequenceFlow_3\" sourceRef=\"UserTask_1\" targetRef=\"EndEvent_1\" />",
    "    <bpmn:endEvent id=\"EndEvent_1\">",
    "      <bpmn:incoming>SequenceFlow_3</bpmn:incoming>",
    "    </bpmn:endEvent>",
    "  </bpmn:process>",
    "  <bpmndi:BPMNDiagram id=\"BPMNDiagram_1\">",
    "    <bpmndi:BPMNPlane id=\"BPMNPlane_1\" bpmnElement=\"suspension-process\">",
    "      <bpmndi:BPMNShape id=\"StartEvent_1_di\" bpmnElement=\"StartEvent_1\">",
    "        <dc:Bounds x=\"152\" y=\"102\" width=\"36\" height=\"36\" />",
    "      </bpmndi:BPMNShape>",
    "      <bpmndi:BPMNShape id=\"ServiceTask_1_di\" bpmnElement=\"ServiceTask_1\">",
    "        <dc:Bounds x=\"240\" y=\"80\" width=\"100\" height=\"80\" />",
    "      </bpmndi:BPMNShape>",
    "      <bpmndi:BPMNShape id=\"UserTask_1_di\" bpmnElement=\"UserTask_1\">",
    "        <dc:Bounds x=\"400\" y=\"80\" width=\"100\" height=\"80\" />",
    "      </bpmndi:BPMNShape>",
    "      <bpmndi:BPMNShape id=\"EndEvent_1_di\" bpmnElement=\"EndEvent_1\">",
    "        <dc:Bounds x=\"562\" y=\"102\" width=\"36\" height=\"36\" />",
    "      </bpmndi:BPMNShape>",
    "      <bpmndi:BPMNEdge id=\"SequenceFlow_1_di\" bpmnElement=\"SequenceFlow_1\">",
    "        <di:waypoint x=\"188\" y=\"120\" />",
    "        <di:waypoint x=\"240\" y=\"120\" />",
    "      </bpmndi:BPMNEdge>",
    "      <bpmndi:BPMNEdge id=\"SequenceFlow_2_di\" bpmnElement=\"SequenceFlow_2\">",
    "        <di:waypoint x=\"340\" y=\"120\" />",
    "        <di:waypoint x=\"400\" y=\"120\" />",
    "      </bpmndi:BPMNEdge>",
    "      <bpmndi:BPMNEdge id=\"SequenceFlow_3_di\" bpmnElement=\"SequenceFlow_3\">",
    "        <di:waypoint x=\"500\" y=\"120\" />",
    "        <di:waypoint x=\"562\" y=\"120\" />",
    "      </bpmndi:BPMNEdge>",
    "    </bpmndi:BPMNPlane>",
    "  </bpmndi:BPMNDiagram>",
    "</bpmn:definitions>"
  ]

namespace ResourceFolder

/-- The folder of the bundled files. -/
def bundled : ResourceFolder := ⟨"/usr/share/rehearsal/resources"⟩

/-- The name of the file that holds the suspension process. -/
def suspensionProcessFile : String := "suspension-process.bpmn"

/-- The bundled files in their folder. -/
def bundledTree : Tree where
  entries :=
    [(["usr", "share", "rehearsal", "resources", suspensionProcessFile],
      .file (Utf8.encode (suspensionProcess.flatMap fun line => line.toList ++ ['\n'])))]

end ResourceFolder
end Rehearsal
